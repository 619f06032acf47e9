import AgentRuntime.Orchestration.Unwinding

/-!
# Sending a request again

A request that supplies its run is sent again after its outcome is durable. Every send draws the conversation
anew where the request names none, so the record of the run is found to be of another conversation. Where it
names one, the send replays what is stored.
-/

namespace AgentRuntime.Orchestration
open State Transition WriteOnce

/-- The request is a send of this chat request, with the identifiers that the server draws for it. -/
structure IsSend (service : RunIdentityService) (chat : ChatRequest) (draws : Draws) (request : Request) :
    Prop where
  fresh : chat.resume = false
  identity : service.freshIdentity chat draws = .ok request.identity

section Identities

variable {service : RunIdentityService} {chat : ChatRequest} {draws draws' : Draws}
variable {request request' : Request}

/-- What a send's identity is made of. -/
lemma IsSend.parts (send : IsSend service chat draws request) :
    request.identity.conversationId = RunIdentityService.conversationOf chat draws ∧
      request.identity.runId = RunIdentityService.runOf chat draws ∧
      request.identity.executionThreadId =
        RunIdentityService.conversationOf chat draws ++ ":" ++ RunIdentityService.runOf chat draws ∧
      service.requestHash chat = .ok request.identity.requestHash ∧
      request.identity.requestHashVersion = service.requestHashVersion ∧
      request.identity.stateSchemaVersion = service.stateSchemaVersion ∧
      request.identity.resumed = false := by
  have identity := send.identity
  rw [RunIdentityService.freshIdentity] at identity
  split at identity
  · cases identity
  · next hash hashed =>
    have eq := Except.ok.inj identity
    rw [← eq]
    exact ⟨rfl, rfl, rfl, hashed, rfl, rfl, rfl⟩

/-- Two sends of a request that supplies its run are about one run. -/
lemma IsSend.same_run (send : IsSend service chat draws request) (send' : IsSend service chat draws' request')
    (supplied : chat.runId.isSome = true) : request'.identity.runId = request.identity.runId := by
  obtain ⟨run, given⟩ := Option.isSome_iff_exists.mp supplied
  rw [send.parts.2.1, send'.parts.2.1, RunIdentityService.runOf, RunIdentityService.runOf, given]
  rfl

/-- The record of one send is the record of another exactly when they are in one conversation. -/
lemma IsSend.matches_iff (send : IsSend service chat draws request)
    (send' : IsSend service chat draws' request') (supplied : chat.runId.isSome = true) {record : RunRecord}
    (m : record.Matches request.identity) : record.Matches request'.identity ↔
      RunIdentityService.conversationOf chat draws' = RunIdentityService.conversationOf chat draws := by
  obtain ⟨conversation, run, thread, hash, version, schema, -⟩ := send.parts
  obtain ⟨conversation', run', thread', hash', version', schema', -⟩ := send'.parts
  have same := send.same_run send' supplied
  constructor
  · intro m'
    rw [← conversation, ← conversation', ← m.conversation, m'.conversation]
  · intro named
    have runs : RunIdentityService.runOf chat draws' = RunIdentityService.runOf chat draws := by
      rw [← run, ← run', same]
    exact {
      conversation := by rw [m.conversation, conversation, conversation', named]
      thread := by rw [m.thread, thread, thread', named, runs]
      hash := by
        rw [m.hash]
        exact Except.ok.inj (hash.symm.trans hash')
      hashVersion := by rw [m.hashVersion, version, version']
      schema := by rw [m.schema, schema, schema'] }

end Identities

section Tracks

variable {agent : ChatRuntimeAgent} {requests : Nat → Request}

/-- Nothing from outside disturbs the handler at the event: it is let through the gate, its await returns, and
    the database does not fail. -/
structure Undisturbed (requests : Nat → Request) (handler : Nat) (e : Event (System agent) Turn) : Prop where
  entered : e.label.handler = handler → e.pre.phases handler = .start →
    (e.pre.gates (requests handler).process).lookup (requests handler).identity.conversationId = none
  returned : e.label.handler = handler → e.label.input.delivery = .returned
  stored : e.post.phases handler ≠ .leaving (.error (.repository .database))

/-- The result is the stored response exactly when it may be. -/
def Answers (same : Prop) (reply : StoredReply) (result : Except RequestError ChatResponse) : Prop :=
  (∃ response, result = .ok response ∧ response.reply = reply) ↔ same

/-- A handler that sends a request again, up to its end. -/
inductive OnTrack (same : Prop) (reply : StoredReply) : Phase → Prop where
  | start :
    OnTrack same reply .start
  | creating :
    OnTrack same reply (.creating false)
  | replaying {response : ChatResponse} :
    same →
    OnTrack same reply (.replaying response)
  | reconciling {response : ChatResponse} :
    same →
    OnTrack same reply (.reconciling response)
  | leaving {result} :
    Answers same reply result →
    OnTrack same reply (.leaving result)
  | done {result} :
    Answers same reply result →
    OnTrack same reply (.done result)

/-- The turns that are left to such a handler. -/
def turnsLeft : Phase → Nat
  | .start => 5
  | .creating _ => 4
  | .replaying _ => 3
  | .reconciling _ => 2
  | .leaving _ => 1
  | _ => 0

end Tracks

section Preflight

variable {request : Request} {record : RunRecord} {input : Input} {reply : StoredReply} {status : RunStatus}

/-- A send that finds its record over replays the response. -/
lemma afterLookup_replays (fresh : request.identity.resumed = false)
    (durable : durableOutcome record = some (status, reply))
    (replayable : ∀ payload, record.responsePayload = some payload → Replayable payload) :
    ∃ response : ChatResponse, response.reply = reply ∧
      (afterLookup request record false false input = .leaving (.ok response) ∨
        afterLookup request record false false input = .replaying response) := by
  obtain ⟨-, ended, payload, stored, rfl⟩ := durableOutcome_inv durable
  obtain ⟨response, same, tagged⟩ := replayable payload stored
  obtain ⟨validated, eq, sameReply, -⟩ := ChatResponse.modelValidate_same input.drawn same
  have replays : replayablePayload record = some payload := by
    have mem : record.status ∈ replayed := by
      rcases ended with completed | failed
      · rw [completed]
        exact .head _
      · rw [failed]
        exact .tail _ (.head _)
    rw [replayablePayload, if_pos mem, stored]
  refine ⟨validated, by rw [sameReply.reply, storedReply_same same], ?_⟩
  simp only [afterLookup, preflightExistingRun, fresh, Bool.false_eq_true, false_and, if_false, replays, eq]
  cases record.historyCommittedAt.isSome with
  | true => exact .inl rfl
  | false => exact .inr rfl

end Preflight

section Steps

variable {agent : ChatRuntimeAgent} {requests : Nat → Request} {s s' : System agent} {turn : Turn}
variable {same : Prop} {reply : StoredReply} {status : RunStatus} {record : RunRecord}

/-- A handler with a conversation that is free enters the gate. -/
lemma start_next (st : System.Step requests s turn s') (phase : s.phases turn.handler = .start)
    (fresh : (requests turn.handler).identity.resumed = false)
    (free : (s.gates (requests turn.handler).process).lookup
      (requests turn.handler).identity.conversationId = none) :
    s'.phases turn.handler = .creating false := by
  have action := System.step_action st (by rw [phase]; rfl)
  obtain ⟨-, -, rfl⟩ := st
  simp only [System.take, Function.update_self, action, phase, advance, ConversationGate.enter, free,
    Option.isSome_none, Bool.false_eq_true, if_false, fresh]

/-- A handler that leaves the gate is done. -/
lemma leaving_next (st : System.Step requests s turn s') {result : Except RequestError ChatResponse}
    (phase : s.phases turn.handler = .leaving result) : s'.phases turn.handler = .done result := by
  have action := System.step_action st (by rw [phase]; rfl)
  obtain ⟨-, -, rfl⟩ := st
  simp only [System.take, Function.update_self, action, phase, advance]

/-- A handler that looks for its record, where there is one with a durable outcome. -/
lemma creating_next (st : System.Step requests s turn s') (inv : Inv requests s)
    (phase : s.phases turn.handler = .creating false)
    (fresh : (requests turn.handler).identity.resumed = false)
    (returned : turn.input.delivery = .returned)
    (stored : s'.phases turn.handler ≠ .leaving (.error (.repository .database)))
    (found : recordOf agent s.store (keyOf agent (requests turn.handler)) = some record)
    (durable : durableOutcome record = some (status, reply))
    (matches_iff : record.Matches (requests turn.handler).identity ↔ same) :
    (same ∧ ∃ response, s'.phases turn.handler = .replaying response) ∨
      ∃ result, s'.phases turn.handler = .leaving result ∧ Answers same reply result := by
  have action := System.step_action st (by rw [phase]; rfl)
  have resumed := System.step_resume st action (by simp [phase]) (by simp [phase])
  rw [phase] at resumed
  simp only [resume, returned, awaited] at resumed
  cases called : agent.store.repo.createOrGet turn.input.now (requests turn.handler).identity s.store with
  | mk answer store =>
    obtain ⟨error, rfl, -, cause⟩ | ⟨record', found', m, rfl, -⟩ | ⟨_, none, -⟩ :=
      agent.store.contract.createOrGet_spec called
    · rw [called] at resumed
      obtain ⟨next, -⟩ := Prod.mk.inj resumed
      refine .inr ⟨_, next.symm, ?_⟩
      have other : ¬ same := by
        obtain rfl | other := cause
        · exact absurd next.symm stored
        · exact fun holds => other record found (matches_iff.mpr holds)
      constructor
      · rintro ⟨_, ok, -⟩
        cases ok
      · intro holds
        exact absurd holds other
    · rw [called] at resumed
      obtain ⟨next, -⟩ := Prod.mk.inj resumed
      cases found.symm.trans found'
      have holds := matches_iff.mp m
      obtain ⟨response, replied, leaves | replays⟩ := @afterLookup_replays (requests turn.handler) record
        turn.input reply status fresh durable fun payload => inv.payloads _ record payload found
      · refine .inr ⟨_, next.symm.trans leaves, ?_⟩
        exact iff_of_true ⟨response, rfl, replied⟩ holds
      · exact .inl ⟨holds, response, next.symm.trans replays⟩
    · cases found.symm.trans none

/-- A handler that has appended the replayed turn. -/
lemma replaying_next (st : System.Step requests s turn s') (inv : Inv requests s) {response : ChatResponse}
    (phase : s.phases turn.handler = .replaying response) (returned : turn.input.delivery = .returned) :
    ∃ response', s'.phases turn.handler = .reconciling response' := by
  have action := System.step_action st (by rw [phase]; rfl)
  have resumed := System.step_resume st action (by simp [phase]) (by simp [phase])
  have tagged := inv.responses turn.handler response (by rw [phase]; rfl)
  obtain ⟨response', flagged⟩ := tagged.withHistoryPersisted true
  rw [phase] at resumed
  simp only [resume, returned, Delivery.answer, Except.isOk, Except.toBool, flagged, if_true] at resumed
  exact ⟨response', (Prod.mk.inj resumed).1.symm⟩

/-- A handler that has marked the history of a replayed run. -/
lemma reconciling_next (st : System.Step requests s turn s') (settled : Settled requests s)
    {response : ChatResponse} (phase : s.phases turn.handler = .reconciling response)
    (returned : turn.input.delivery = .returned)
    (stored : s'.phases turn.handler ≠ .leaving (.error (.repository .database)))
    (found : recordOf agent s.store (keyOf agent (requests turn.handler)) = some record)
    (durable : durableOutcome record = some (status, reply)) :
    ∃ response, s'.phases turn.handler = .leaving (.ok response) ∧ response.reply = reply := by
  have action := System.step_action st (by rw [phase]; rfl)
  have resumed := System.step_resume st action (by simp [phase]) (by simp [phase])
  have kept := settled.stored turn.handler response (by rw [phase]; rfl)
  obtain ⟨status', outcome⟩ := kept
  rw [outcome_record found, durable] at outcome
  rw [phase] at resumed
  simp only [resume, returned, awaited] at resumed
  cases called : agent.store.repo.reconcileHistoryCommitted turn.input.now
    (requests turn.handler).identity.runId (some response.modelDump) s.store with
  | mk answer store =>
    obtain ⟨error, rfl, -, cause⟩ | ⟨_, _, _, -, -, -, rfl, -⟩ :=
      agent.store.contract.reconcileHistoryCommitted_spec called
    · rw [called] at resumed
      obtain ⟨next, -⟩ := Prod.mk.inj resumed
      obtain rfl | other := cause
      · exact absurd next.symm stored
      · obtain ⟨-, completed | failed, -⟩ := durableOutcome_inv durable
        · exact absurd completed (other record found).1
        · exact absurd failed (other record found).2
    · rw [called] at resumed
      obtain ⟨next, -⟩ := Prod.mk.inj resumed
      refine ⟨response, next.symm, ?_⟩
      cases outcome
      rfl

/-- What is known of the run of a handler that sends a request again: its record has a durable outcome, and is
    its record where the send may be answered. -/
structure Stored (requests : Nat → Request) (handler : Nat) (same : Prop) (reply : StoredReply)
    (s : System agent) : Prop where
  fresh : (requests handler).identity.resumed = false
  record : ∃ record status, recordOf agent s.store (keyOf agent (requests handler)) = some record ∧
    durableOutcome record = some (status, reply) ∧ (record.Matches (requests handler).identity ↔ same)

/-- An undisturbed turn of the handler takes it one step towards its end. -/
lemma OnTrack.next (on : OnTrack same reply (s.phases turn.handler)) (st : System.Step requests s turn s')
    (inv : Inv requests s) (settled : Settled requests s)
    (stored : Stored requests turn.handler same reply s)
    (undisturbed : Undisturbed requests turn.handler ⟨s, turn, s'⟩) :
    OnTrack same reply (s'.phases turn.handler) ∧
      turnsLeft (s'.phases turn.handler) ≤ turnsLeft (s.phases turn.handler) - 1 := by
  obtain ⟨record, status, found, durable, matches_iff⟩ := stored.record
  have returned := undisturbed.returned rfl
  cases phase : s.phases turn.handler with
  | start =>
    rw [start_next st phase stored.fresh (undisturbed.entered rfl phase)]
    exact ⟨.creating, Nat.le_refl _⟩
  | creating migrated =>
    rw [phase] at on
    cases on
    obtain ⟨holds, response, next⟩ | ⟨result, next, answers⟩ :=
      creating_next st inv phase stored.fresh returned undisturbed.stored found durable matches_iff
    · rw [next]
      exact ⟨.replaying holds, Nat.le_refl _⟩
    · rw [next]
      exact ⟨.leaving answers, by simp [turnsLeft]⟩
  | replaying response =>
    rw [phase] at on
    cases on with
    | replaying holds =>
      obtain ⟨response', next⟩ := replaying_next st inv phase returned
      rw [next]
      exact ⟨.reconciling holds, Nat.le_refl _⟩
  | reconciling response =>
    rw [phase] at on
    cases on with
    | reconciling holds =>
      obtain ⟨response', next, replied⟩ :=
        reconciling_next st settled phase returned undisturbed.stored found durable
      rw [next]
      exact ⟨.leaving (iff_of_true ⟨response', rfl, replied⟩ holds), Nat.le_refl _⟩
  | leaving result =>
    rw [phase] at on
    cases on with
    | leaving answers =>
      rw [leaving_next st phase]
      exact ⟨.done answers, Nat.le_refl _⟩
  | done result =>
    have action := System.step_action st (by rw [phase]; rfl)
    have resumed := System.step_resume st action (by simp [phase]) (by simp [phase])
    rw [phase] at on resumed
    rw [← (Prod.mk.inj resumed).1]
    exact ⟨on, Nat.zero_le _⟩
  | _ =>
    rw [phase] at on
    cases on

/-- A turn of the system keeps an undisturbed handler on its track. -/
lemma OnTrack.step {handler : Nat} (on : OnTrack same reply (s.phases handler))
    (st : System.Step requests s turn s') (inv : Inv requests s) (settled : Settled requests s)
    (stored : Stored requests handler same reply s) (undisturbed : Undisturbed requests handler ⟨s, turn, s'⟩) :
    OnTrack same reply (s'.phases handler) ∧
      turnsLeft (s'.phases handler) ≤
        turnsLeft (s.phases handler) - if turn.handler = handler then 1 else 0 := by
  by_cases own : turn.handler = handler
  · subst own
    rw [if_pos rfl]
    exact on.next st inv settled stored undisturbed
  · obtain ⟨p', phases, -⟩ := System.step_cases st
    rw [phases, Function.update_of_ne (Ne.symm own), if_neg own]
    exact ⟨on, Nat.le_refl _⟩

end Steps

section Runs

variable {agent : ChatRuntimeAgent} {requests : Nat → Request} {service : RunIdentityService}
variable {chat : ChatRequest} {draws draws' : Draws} {i j : Nat} {status : RunStatus} {reply : StoredReply}
variable {s s' final : System agent} {turn : Turn} {events : List (Event (System agent) Turn)}

/-- The first send's run has its record, and its outcome is durable. -/
structure Ended (requests : Nat → Request) (i : Nat) (status : RunStatus) (reply : StoredReply)
    (s : System agent) : Prop where
  known : ∃ r, recordOf agent s.store (keyOf agent (requests i)) = some r ∧ r.Matches (requests i).identity
  outcome : s.outcome (keyOf agent (requests i)) = some (status, reply)

lemma Ended.step (ended : Ended requests i status reply s) (inv : Inv requests s)
    (settled : Settled requests s) (st : System.Step requests s turn s')
    (keeps : KeepsSettled requests ⟨s, turn, s'⟩) : Ended requests i status reply s' where
  known := by
    obtain ⟨_, -, ⟨-, store⟩ | adv⟩ := System.step_cases st
    · rw [store]
      exact ended.known
    · exact adv.change.known ended.known
  outcome := (settled.step inv st keeps).2 _ _ ended.outcome

/-- The record of the first send is what another send finds. -/
lemma Ended.stored (ended : Ended requests i status reply s)
    (first : IsSend service chat draws (requests i)) (again : IsSend service chat draws' (requests j))
    (supplied : chat.runId.isSome = true) :
    Stored requests j (RunIdentityService.conversationOf chat draws' =
      RunIdentityService.conversationOf chat draws) reply s where
  fresh := again.parts.2.2.2.2.2.2
  record := by
    obtain ⟨r, found, m⟩ := ended.known
    have durable := ended.outcome
    rw [outcome_record found] at durable
    have key : keyOf agent (requests j) = keyOf agent (requests i) :=
      congrArg agent.store.contract.key (first.same_run again supplied)
    exact ⟨r, status, key ▸ found, durable, first.matches_iff again supplied m⟩

/-- An undisturbed handler stays on its track, and every turn of it brings its end closer. -/
lemma OnTrack.run {same : Prop} (run : Run (System.Step requests) s events final) (inv : Inv requests s)
    (settled : Settled requests s) (ended : Ended requests i status reply s)
    (stored : ∀ s : System agent, Ended requests i status reply s → Stored requests j same reply s)
    (on : OnTrack same reply (s.phases j)) (keeps : ∀ e ∈ events, KeepsSettled requests e)
    (undisturbed : ∀ e ∈ events, Undisturbed requests j e) :
    (∀ e ∈ events, OnTrack same reply (e.pre.phases j)) ∧ OnTrack same reply (final.phases j) ∧
      turnsLeft (final.phases j) ≤
        turnsLeft (s.phases j) - events.countP fun e => e.label.handler = j := by
  induction run with
  | nil => exact ⟨List.forall_mem_nil _, on, Nat.le_refl _⟩
  | @cons s turn s' events final st _ ih =>
    have keep := keeps _ (.head _)
    obtain ⟨on', less⟩ := on.step st inv settled (stored s ended) (undisturbed _ (.head _))
    obtain ⟨each, last, fewer⟩ := ih (inv.step st) (settled.step inv st keep).1
      (ended.step inv settled st keep) on' (fun e mem => keeps e (.tail _ mem))
      (fun e mem => undisturbed e (.tail _ mem))
    refine ⟨List.forall_mem_cons.mpr ⟨on, each⟩, last, ?_⟩
    rw [List.countP_cons]
    simp only [decide_eq_true_eq]
    omega

/-- A handler without turns left has its answer. -/
lemma OnTrack.done_of {same : Prop} {p : Phase} (on : OnTrack same reply p) (none : turnsLeft p = 0) :
    ∃ result, p = .done result := by
  cases on with
  | done => exact ⟨_, rfl⟩
  | _ => cases none

/-- A handler on its track does not start the graph. -/
lemma OnTrack.not_starts {same : Prop} {e : Event (System agent) Turn}
    (on : OnTrack same reply (e.pre.phases e.label.handler)) (lease : RunLease) : ¬ StartsGraph e lease := by
  rintro ⟨current, preparing, -⟩
  rw [preparing] at on
  cases on

/-- Two sends are in one conversation when the request names one, or the same is drawn for both. -/
lemma conversationOf_eq_iff : RunIdentityService.conversationOf chat draws' =
    RunIdentityService.conversationOf chat draws ↔
      chat.conversation.isSome = true ∨ draws'.conversation = draws.conversation := by
  rw [RunIdentityService.conversationOf, RunIdentityService.conversationOf]
  cases chat.conversation with
  | none => simp [Subtype.ext_iff]
  | some id => simp

/-- After a send of the request has stored its outcome, every later send that nothing disturbs ends within five
    turns and starts no graph; and it returns what is stored exactly when the request names its conversation, or
    the same one is drawn for both. -/
theorem retry_replays_iff (agent : ChatRuntimeAgent) (requests : Nat → Request) {now : Time}
    {before middle later : List (Event (System agent) Turn)} {e : Event (System agent) Turn}
    {final : System agent} {status : RunStatus} {reply : StoredReply}
    (run : Run (System.Step requests) (System.start agent now) (before ++ e :: (middle ++ later)) final)
    (keeps : ∀ e' ∈ before ++ e :: (middle ++ later), KeepsSettled requests e')
    {service : RunIdentityService} {chat : ChatRequest} {draws draws' : Draws} {j : Nat}
    (first : IsSend service chat draws (requests e.label.handler))
    (again : IsSend service chat draws' (requests j)) (supplied : chat.runId.isSome = true)
    (persisted : persistedOutcome e = some (status, reply))
    (unsent : ∀ e' ∈ before ++ e :: middle, e'.label.handler ≠ j)
    (undisturbed : ∀ e' ∈ later, Undisturbed requests j e') :
    (∀ e' ∈ later, e'.label.handler = j → ∀ lease, ¬ StartsGraph e' lease) ∧
    (5 ≤ later.countP (fun e' => e'.label.handler = j) → ∃ result, final.phases j = .done result) ∧
    ∀ result, final.phases j = .done result →
      ((∃ response, result = .ok response ∧ response.reply = reply) ↔
        chat.conversation.isSome = true ∨ draws'.conversation = draws.conversation) := by
  have parts : before ++ e :: (middle ++ later) = (before ++ e :: middle) ++ later := by simp
  rw [parts] at run keeps
  obtain ⟨m, sent, rest⟩ := run.split
  obtain ⟨_, -, from_e⟩ := sent.split
  obtain ⟨rfl, st, stays⟩ := from_e.head
  have keeps_sent : ∀ e' ∈ before ++ e :: middle, KeepsSettled requests e' :=
    fun e' mem => keeps e' (List.mem_append_left _ mem)
  -- the outcome of the first send is durable from its event on
  obtain ⟨⟨inv, settled⟩, -⟩ := settled_run (.start now) (.start now) sent keeps_sent e
    (List.mem_append_right _ (.head _))
  have keep := keeps_sent e (List.mem_append_right _ (.head _))
  obtain ⟨_, _, _, _, _, -, appending, -⟩ := persistedOutcome_inv persisted
  have ended : Ended requests e.label.handler status reply e.post :=
    { known := (inv.step st).known _ (by rw [appending]; rfl)
      outcome := persisted_outcome inv st persisted }
  obtain ⟨inv, settled, ended⟩ : Inv requests m ∧ Settled requests m ∧
      Ended requests e.label.handler status reply m := by
    apply stays.invariant (I := fun s => Inv requests s ∧ Settled requests s ∧
      Ended requests e.label.handler status reply s) _
      (fun e' mem => keeps_sent e' (List.mem_append_right _ (.tail _ mem)))
      ⟨inv.step st, (settled.step inv st keep).1, ended⟩
    rintro e' st keep ⟨inv, settled, ended⟩
    exact ⟨inv.step st, (settled.step inv st keep).1, ended.step inv settled st keep⟩
  -- nothing has moved the later handler yet
  have waiting : m.phases j = .start := by
    apply sent.invariant (I := fun s => s.phases j = .start) _ unsent rfl
    intro e' st other waits
    obtain ⟨p', phases, -⟩ := System.step_cases st
    rw [phases, Function.update_of_ne (Ne.symm other)]
    exact waits
  obtain ⟨each, last, left⟩ := OnTrack.run rest inv settled ended
    (fun s ended => ended.stored first again supplied) (by rw [waiting]; exact .start)
    (fun e' mem => keeps e' (List.mem_append_right _ mem)) undisturbed
  refine ⟨?_, ?_, ?_⟩
  · rintro e' mem rfl lease
    exact (each e' mem).not_starts lease
  · intro turns
    apply last.done_of
    have five : turnsLeft (m.phases j) = 5 := by
      rw [waiting]
      rfl
    omega
  · intro result done
    rw [done] at last
    cases last with
    | done answers => exact answers.trans conversationOf_eq_iff

end Runs

section Samples

/-- The digest of the request of the examples. -/
def retryDigest : String := "a8437d14ebfdbb172e2b8a853553658c75fc6a04f7ddaf3c1bd35f446451e020"

/-- The run that the request of the examples supplies. -/
def retryRun : String := "11111111-1111-4111-8111-111111111111"

lemma retryNamespace_length :
    1 ≤ ("execution-state-v1" : String).length ∧ ("execution-state-v1" : String).length ≤ 100 := by
  decide +kernel

lemma retryKey_length : ("primary" : String).length ≤ 100 := by
  decide +kernel

lemma retryDigest_length (_ : String) : retryDigest.length = 64 := by
  decide +kernel

/-- A service for examples, with the digest of one request. -/
def retryService : RunIdentityService where
  checkpointNamespace := "execution-state-v1"
  stateSchemaVersion := 1
  requestHashVersion := 1
  activeKeyId := "primary"
  nfc text := text
  lower text := String.ofList (text.toList.map Char.toLower)
  floatRepr _ := "0.0"
  sha256 _ := retryDigest
  namespace_length := retryNamespace_length
  schema_version := firstVersion
  hash_version := firstHashVersion
  key_length := retryKey_length
  sha256_length := retryDigest_length

lemma support_valid : ("support" : String) ≠ "" ∧ ("support" : String).length ≤ 200 := by
  decide +kernel

/-- A conversation that a request can name. -/
def supportId : { id : String // id ≠ "" ∧ id.length ≤ 200 } := ⟨"support", support_valid⟩

lemma retryMessage_length : 1 ≤ ("question" : String).length ∧ ("question" : String).length ≤ 20000 := by
  decide +kernel

lemma retryRun_valid : ∀ id ∈ some retryRun, Text.canonicalUuid id = true := by
  intro id given
  cases given
  decide +kernel

lemma no_thread : ∀ id ∈ (none : Option String), id ≠ "" ∧ id.length ≤ 200 := by
  intro id none
  cases none

lemma no_token : ∀ token ∈ (none : Option String), token ≠ "" ∧ token.length ≤ 4096 := by
  intro token none
  cases none

lemma no_resume : false = (none : Option String).isSome := rfl

lemma support_given (named : Bool) : ∀ id ∈ (if named then some supportId.val else none),
    id ≠ "" ∧ id.length ≤ 200 := by
  intro id given
  cases named with
  | true =>
    cases given
    exact supportId.property
  | false => cases given

lemma no_thread_matches (named : Bool) : ∀ thread ∈ (none : Option String),
    ∀ conversation ∈ (if named then some supportId.val else none), thread = conversation := by
  intro thread none
  cases none

/-- A request that supplies its run, and names a conversation or none. -/
def retriedChat (named : Bool) : ChatRequest where
  message := "question"
  conversationId := if named then some supportId.val else none
  runId := some retryRun
  message_length := retryMessage_length
  thread_valid := no_thread
  conversation_valid := support_given named
  run_valid := retryRun_valid
  ids_match := no_thread_matches named
  token_valid := no_token
  resume_token := no_resume

/-- The identifiers that the server draws for two sends. -/
def retryDraws (k : Nat) : Draws where
  conversation :=
    if k = 0 then ⟨"33333333-3333-4333-8333-333333333333", by decide +kernel⟩
    else ⟨"44444444-4444-4444-8444-444444444444", by decide +kernel⟩
  run := ⟨"55555555-5555-4555-8555-555555555555", by decide +kernel⟩

/-- The request is sent to two processes. -/
def retriedRequest (named : Bool) (k : Nat) : Request where
  process := k
  message := "question"
  identity :=
    match retryService.freshIdentity (retriedChat named) (retryDraws k) with
    | .ok identity => identity
    | .error _ => sampleIdentity retryRun sampleRun_length

lemma retriedRequest_isSend (named : Bool) (k : Nat) :
    IsSend retryService (retriedChat named) (retryDraws k) (retriedRequest named k) where
  fresh := rfl
  identity := by
    rw [retriedRequest]
    cases identified : retryService.freshIdentity (retriedChat named) (retryDraws k) with
    | ok identity => rfl
    | error error =>
      have hashed : (retryService.requestHash (retriedChat named)).isOk = true := by
        cases named <;> decide +kernel
      rw [RunIdentityService.freshIdentity] at identified
      split at identified
      · next failed =>
        rw [failed] at hashed
        cases hashed
      · cases identified

/-- The event that persists the outcome of the first send. -/
def retryPersisting (named : Bool) : Event (System sampleRuntime) Turn :=
  let s := System.after (retriedRequest named) (.start sampleRuntime 0) (sampleTurns (List.replicate 7 0))
  let turn := { handler := 0, input := sampleInput }
  ⟨s, turn, s.take (retriedRequest named) turn⟩

/-- The system when the first send has ended. -/
def retryPoint (named : Bool) : System sampleRuntime :=
  System.after (retriedRequest named) (retryPersisting named).post (sampleTurns (List.replicate 4 0))

/-- The events of the first send, up to its outcome and after it. -/
def retryBefore (named : Bool) : List (Event (System sampleRuntime) Turn) :=
  System.history (retriedRequest named) (.start sampleRuntime 0) (sampleTurns (List.replicate 7 0))

def retryMiddle (named : Bool) : List (Event (System sampleRuntime) Turn) :=
  System.history (retriedRequest named) (retryPersisting named).post (sampleTurns (List.replicate 4 0))

/-- The events of the second send. -/
def retryEvents (named : Bool) : List (Event (System sampleRuntime) Turn) :=
  System.history (retriedRequest named) (retryPoint named) (sampleTurns (List.replicate 5 1))

/-- The system when the second send has ended. -/
def retryFinal (named : Bool) : System sampleRuntime :=
  System.after (retriedRequest named) (retryPoint named) (sampleTurns (List.replicate 5 1))

/-- The turns of the two sends come one after the other. -/
lemma retry_run (named : Bool) : Run (System.Step (retriedRequest named)) (.start sampleRuntime 0)
    (retryBefore named ++ retryPersisting named :: (retryMiddle named ++ retryEvents named))
    (retryFinal named) := by
  have clocks : (retryPersisting named).pre.clock = 0 ∧ (retryPersisting named).post.clock = 0 ∧
      (retryPoint named).clock = 0 := by
    cases named <;> decide +kernel
  have timed (handler count : Nat) {t : Time} (zero : t = 0) :
      (t :: (sampleTurns (List.replicate count handler)).map fun turn => turn.input.now).Pairwise
        (· ≤ ·) := by
    rw [zero, sampleTurns, List.map_map, List.map_replicate]
    exact List.pairwise_cons.mpr ⟨fun _ mem => Int.le_of_eq (List.eq_of_mem_replicate mem).symm,
      List.pairwise_replicate.mpr (.inr (Int.le_refl _))⟩
  have resumed (handler count : Nat) :
      ∀ turn ∈ sampleTurns (List.replicate count handler), turn.action = .resume := by
    intro turn mem
    obtain ⟨_, -, rfl⟩ := List.mem_map.mp mem
    rfl
  have step : System.Step (retriedRequest named) (retryPersisting named).pre (retryPersisting named).label
      (retryPersisting named).post := by
    refine ⟨Int.le_of_eq clocks.1, ?_, rfl⟩
    intro beat
    cases beat
  exact Run.append (System.run_history _ _ _ (timed 0 7 rfl) (resumed 0 7))
    (.cons step (Run.append
      (System.run_history _ (retryPersisting named).post _ (timed 0 4 clocks.2.1) (resumed 0 4))
      (System.run_history _ (retryPoint named) _ (timed 1 5 clocks.2.2) (resumed 1 5))))

/-- A check of an event: nothing disturbs the handler. -/
def undisturbedCheck (requests : Nat → Request) (handler : Nat) {agent : ChatRuntimeAgent}
    (e : Event (System agent) Turn) : Bool :=
  (match e.pre.phases handler with
    | .start =>
      ((e.pre.gates (requests handler).process).lookup (requests handler).identity.conversationId).isNone
    | _ => true) &&
  e.label.input.delivery = .returned &&
    match e.post.phases handler with
    | .leaving (.error (.repository .database)) => false
    | _ => true

lemma undisturbed_of_check {agent : ChatRuntimeAgent} {requests : Nat → Request} {handler : Nat}
    {e : Event (System agent) Turn} (check : undisturbedCheck requests handler e = true) :
    Undisturbed requests handler e := by
  rw [undisturbedCheck, Bool.and_eq_true, Bool.and_eq_true] at check
  obtain ⟨⟨entered, returned⟩, stored⟩ := check
  refine ⟨?_, fun _ => of_decide_eq_true returned, ?_⟩
  · intro _ phase
    rw [phase] at entered
    exact Option.isNone_iff_eq_none.mp entered
  · intro failed
    rw [failed] at stored
    cases stored

/-- What the first send stores. -/
def retryOutcome (named : Bool) : RunStatus × StoredReply :=
  (.completed,
    { conversationId := some (if named then supportId.val else (retryDraws 0).conversation.val)
      runId := some retryRun
      response := some "an answer" })

/-- A request that names its conversation, sent to two processes: the second send returns what the first one
    stored. -/
theorem retry_replays_sample : ∃ response, (retryFinal true).phases 1 = .done (.ok response) ∧
    response.reply = (retryOutcome true).2 := by
  have checked : ∀ e ∈ retryBefore true ++ retryPersisting true :: (retryMiddle true ++ retryEvents true),
      settledCheck (retriedRequest true) e = true :=
    List.all_eq_true.mp (by decide +kernel)
  have others : ∀ e ∈ retryBefore true ++ retryPersisting true :: retryMiddle true,
      (e.label.handler != 1) = true :=
    List.all_eq_true.mp (by decide +kernel)
  have undisturbed : ∀ e ∈ retryEvents true, undisturbedCheck (retriedRequest true) 1 e = true :=
    List.all_eq_true.mp (by decide +kernel)
  obtain ⟨-, ends, answers⟩ := retry_replays_iff sampleRuntime (retriedRequest true) (retry_run true)
    (fun e mem => keepsSettled_of_check (checked e mem)) (retriedRequest_isSend true 0)
    (retriedRequest_isSend true 1) (by decide +kernel) (show _ = some (retryOutcome true) by decide +kernel)
    (fun e mem => bne_iff_ne.mp (others e mem)) (fun e mem => undisturbed_of_check (undisturbed e mem))
  obtain ⟨result, done⟩ := ends (by decide +kernel)
  obtain ⟨response, rfl, reply⟩ := (answers result done).mpr (.inl (by decide +kernel))
  exact ⟨response, done, reply⟩

/-- The handling has ended with a conflict. -/
def conflicts : Phase → Bool
  | .done (.error (.repository (.identity .runConflict _))) => true
  | _ => false

lemma conflicts_iff {p : Phase} :
    conflicts p = true ↔ ∃ message, p = .done (.error (.identity .runConflict message)) := by
  constructor
  · intro conflict
    unfold conflicts at conflict
    split at conflict
    · exact ⟨_, rfl⟩
    · cases conflict
  · rintro ⟨message, rfl⟩
    rfl

/-- A request that names none: the second send finds the record of another conversation. -/
theorem retry_conflicts :
    ¬ ∀ (agent : ChatRuntimeAgent) (requests : Nat → Request) (now : Time)
      (before middle later : List (Event (System agent) Turn)) (e : Event (System agent) Turn)
      (final : System agent) (outcome : RunStatus × StoredReply),
      Run (System.Step requests) (System.start agent now) (before ++ e :: (middle ++ later)) final →
      (∀ e' ∈ before ++ e :: (middle ++ later), KeepsSettled requests e') →
      ∀ (service : RunIdentityService) (chat : ChatRequest) (draws draws' : Draws) (j : Nat),
        IsSend service chat draws (requests e.label.handler) →
        IsSend service chat draws' (requests j) →
        chat.runId.isSome = true →
        persistedOutcome e = some outcome →
        (∀ e' ∈ before ++ e :: middle, e'.label.handler ≠ j) →
        (∀ e' ∈ later, Undisturbed requests j e') →
        ∀ result, final.phases j = .done result →
          ∃ response, result = .ok response ∧ response.reply = outcome.2 := by
  intro claim
  have checked : ∀ e ∈ retryBefore false ++ retryPersisting false :: (retryMiddle false ++ retryEvents false),
      settledCheck (retriedRequest false) e = true :=
    List.all_eq_true.mp (by decide +kernel)
  have others : ∀ e ∈ retryBefore false ++ retryPersisting false :: retryMiddle false,
      (e.label.handler != 1) = true :=
    List.all_eq_true.mp (by decide +kernel)
  have undisturbed : ∀ e ∈ retryEvents false, undisturbedCheck (retriedRequest false) 1 e = true :=
    List.all_eq_true.mp (by decide +kernel)
  obtain ⟨message, conflict⟩ := conflicts_iff.mp
    (show conflicts ((retryFinal false).phases 1) = true by decide +kernel)
  obtain ⟨response, failed, -⟩ := claim _ _ _ _ _ _ _ _ (retryOutcome false) (retry_run false)
    (fun e mem => keepsSettled_of_check (checked e mem)) retryService (retriedChat false) (retryDraws 0)
    (retryDraws 1) 1 (retriedRequest_isSend false 0) (retriedRequest_isSend false 1) (by decide +kernel)
    (by decide +kernel) (fun e mem => bne_iff_ne.mp (others e mem))
    (fun e mem => undisturbed_of_check (undisturbed e mem)) _ conflict
  cases failed

end Samples

end AgentRuntime.Orchestration

