import AgentRuntime.Orchestration.Invariants
import AgentRuntime.Orchestration.Drain

/-!
# Where answers come from

Every response that a handler returns, and every one that the repository stores, was given by an execution of
the graph for the same run: the handler's own, or that of another handler that a replay hands out again. A run
is bound to the payload that it is first sent with, so the execution was for the conversation and the payload of
the request that is answered.
-/

namespace AgentRuntime.Orchestration
open State Transition

/-- Two identities with the same payload: they agree in every field that the record of their run keeps. -/
structure SamePayload (identity identity' : RunIdentity) : Prop where
  conversation : identity.conversationId = identity'.conversationId
  thread : identity.executionThreadId = identity'.executionThreadId
  hash : identity.requestHash = identity'.requestHash
  hashVersion : identity.requestHashVersion = identity'.requestHashVersion
  schema : identity.stateSchemaVersion = identity'.stateSchemaVersion

lemma samePayload_of_matches {r : RunRecord} {identity identity' : RunIdentity} (m : r.Matches identity)
    (m' : r.Matches identity') : SamePayload identity identity' where
  conversation := m.conversation.symm.trans m'.conversation
  thread := m.thread.symm.trans m'.thread
  hash := m.hash.symm.trans m'.hash
  hashVersion := m.hashVersion.symm.trans m'.hashVersion
  schema := m.schema.symm.trans m'.schema

section Replies

/-- The response that the handler has, up to the one that it returns. -/
def Phase.reply? : Phase → Option ChatResponse
  | .releasing _ (.ok response) => some response
  | .leaving (.ok response) => some response
  | .done (.ok response) => some response
  | phase => phase.response?

lemma Phase.reply?_of_response? {p : Phase} {response : ChatResponse} (h : p.response? = some response) :
    p.reply? = some response := by
  cases p with
  | releasing => cases h
  | leaving => cases h
  | done => cases h
  | _ => exact h

lemma reply?_unwind (lease : RunLease) (terminalPersisted : Bool) (error : RequestError) :
    (unwind lease terminalPersisted error).reply? = none := by
  simp only [unwind]
  split
  · rfl
  · rfl
  · split <;> rfl

variable {agent : ChatRuntimeAgent} {request : Request} {input : Input} {p p' : Phase} {s s' : agent.store.σ}
variable {response : ChatResponse}

lemma reply?_afterInspection (created checkpointExists : Bool) :
    (afterInspection request created checkpointExists).reply? = none := by
  simp only [afterInspection]
  split
  · rfl
  · split <;> rfl

/-- A record that is looked up gives a response by a replay only. -/
lemma lookup_replays {r : RunRecord} {created resumeMigrated : Bool}
    (h : (afterLookup request r created resumeMigrated input).reply? = some response) : Replays r response := by
  simp only [afterLookup] at h
  split at h
  · cases h
  · next replay =>
    cases h
    exact preflight_replays replay
  · next replay =>
    cases h
    exact preflight_replays replay
  · split at h <;> cases h

variable (agent request input) in
/-- Where a response comes from at an await: the handler has it, or replays it, or the graph gives it. -/
inductive Source (p : Phase) (s' : agent.store.σ) (response : ChatResponse) : Prop where
  | kept {response'} :
    p.reply? = some response' →
    ChatResponse.SameReply response response' →
    Source p s' response
  | replayed {r} :
    recordOf agent s' (keyOf agent request) = some r →
    r.Matches request.identity →
    Replays r response →
    Source p s' response
  | executed {lease current} :
    p = .executing lease current →
    input.delivery.answer = .ok () →
    response = (executeRun agent request.identity input.result input.report input.drawn).response →
    Source p s' response

lemma Source.same (h : p.reply? = some response) : Source agent request input p s' response :=
  .kept h (.refl _)

lemma creating_source {resumeMigrated : Bool}
    (h : resume agent request input s (.creating resumeMigrated) = (p', s'))
    (reply : p'.reply? = some response) : Source agent request input (.creating resumeMigrated) s' response := by
  unfold resume at h
  dsimp only at h
  split at h
  · obtain ⟨rfl, rfl⟩ := Prod.mk.inj h
    cases reply
  · next r created t called =>
    obtain ⟨rfl, rfl⟩ := Prod.mk.inj h
    have replays := lookup_replays reply
    obtain ⟨_, e, -⟩ | ⟨r', found, m, e, rfl⟩ | ⟨r', -, m, -, -, e, records, -⟩ :=
      agent.store.contract.createOrGet_spec ((awaited_cases called).2 _ rfl)
    · cases e
    · cases e
      exact .replayed found m replays
    · cases e
      exact .replayed ((congrFun records _).trans (Function.update_self _ _ _)) m replays

lemma reading_source (h : resume agent request input s .reading = (p', s'))
    (reply : p'.reply? = some response) : Source agent request input .reading s' response := by
  unfold resume at h
  dsimp only at h
  split at h
  · obtain ⟨rfl, rfl⟩ := Prod.mk.inj h
    cases reply
  · obtain ⟨rfl, rfl⟩ := Prod.mk.inj h
    cases reply
  · next r t called =>
    split at h
    · next valid =>
      obtain ⟨rfl, rfl⟩ := Prod.mk.inj h
      obtain ⟨same, ⟨error, e⟩ | e⟩ := agent.store.contract.get_spec ((awaited_cases called).2 _ rfl)
      · cases e
      · subst same
        exact .replayed (Except.ok.inj e).symm (validateRecordIdentity_ok.mp valid) (lookup_replays reply)
    · obtain ⟨rfl, rfl⟩ := Prod.mk.inj h
      cases reply

/-- The history flag is all that a handler writes to a response. -/
lemma flagged_source {response' flagged : ChatResponse} {persisted : Bool} (held : p.reply? = some response')
    (set : response'.withHistoryPersisted persisted = some flagged) :
    Source agent request input p s' flagged :=
  .kept held (tagged_withHistoryPersisted set).2

/-- The response that a handler has after an await. -/
lemma resume_source (h : resume agent request input s p = (p', s')) (reply : p'.reply? = some response) :
    Source agent request input p s' response := by
  have unwound (lease terminalPersisted error) (e : (unwind lease terminalPersisted error).reply? = some response) :
      Source agent request input p s' response := by
    cases (reply?_unwind lease terminalPersisted error).symm.trans e
  cases p with
  | reading => exact reading_source h reply
  | creating resumeMigrated => exact creating_source h reply
  | executing lease current =>
    simp only [resume] at h
    split at h
    · obtain ⟨rfl, rfl⟩ := Prod.mk.inj h
      exact unwound _ _ _ reply
    · next answered =>
      obtain ⟨rfl, rfl⟩ := Prod.mk.inj h
      cases reply
      exact .executed rfl answered rfl
  | replaying replay =>
    simp only [resume] at h
    split at h
    · obtain ⟨rfl, rfl⟩ := Prod.mk.inj h
      cases reply
    · split at h
      · obtain ⟨rfl, rfl⟩ := Prod.mk.inj h
        cases reply
      · next flagged =>
        split at h
        · obtain ⟨rfl, rfl⟩ := Prod.mk.inj h
          cases reply
          exact flagged_source rfl flagged
        · obtain ⟨rfl, rfl⟩ := Prod.mk.inj h
          cases reply
          exact flagged_source rfl flagged
  | appending lease execution =>
    simp only [resume] at h
    split at h
    · obtain ⟨rfl, rfl⟩ := Prod.mk.inj h
      exact unwound _ _ _ reply
    · split at h
      · obtain ⟨rfl, rfl⟩ := Prod.mk.inj h
        exact unwound _ _ _ reply
      · next flagged =>
        split at h
        · obtain ⟨rfl, rfl⟩ := Prod.mk.inj h
          cases reply
          exact flagged_source rfl flagged
        · obtain ⟨rfl, rfl⟩ := Prod.mk.inj h
          cases reply
          exact flagged_source rfl flagged
  | releasing lease result =>
    simp only [resume] at h
    split at h
    · obtain ⟨rfl, rfl⟩ := Prod.mk.inj h
      cases reply
    · obtain ⟨rfl, rfl⟩ := Prod.mk.inj h
      cases result with
      | error => cases reply
      | ok => exact .same reply
  | inspecting created =>
    simp only [resume] at h
    repeat' split at h
    all_goals
      obtain ⟨rfl, rfl⟩ := Prod.mk.inj h
      first
      | cases reply
      | cases (reply?_afterInspection _ _).symm.trans reply
  | start =>
    obtain ⟨rfl, rfl⟩ := Prod.mk.inj h
    exact .same reply
  | leaving =>
    obtain ⟨rfl, rfl⟩ := Prod.mk.inj h
    exact .same reply
  | done =>
    obtain ⟨rfl, rfl⟩ := Prod.mk.inj h
    exact .same reply
  | _ =>
    -- the response is passed on, or given up
    simp only [resume] at h
    repeat' split at h
    all_goals
      obtain ⟨rfl, rfl⟩ := Prod.mk.inj h
      first
      | exact unwound _ _ _ reply
      | exact .same reply
      | cases reply

/-- A heartbeat gives no response. -/
lemma heartbeat_reply (h : heartbeat agent input s p = (p', s')) (reply : p'.reply? = some response) :
    p.reply? = some response := by
  cases p with
  | preparing lease current =>
    simp only [heartbeat] at h
    split at h
    · obtain ⟨rfl, rfl⟩ := Prod.mk.inj h
      cases (reply?_unwind _ _ _).symm.trans reply
    · obtain ⟨rfl, rfl⟩ := Prod.mk.inj h
      cases reply
  | executing lease current =>
    simp only [heartbeat] at h
    split at h
    · obtain ⟨rfl, rfl⟩ := Prod.mk.inj h
      cases (reply?_unwind _ _ _).symm.trans reply
    · obtain ⟨rfl, rfl⟩ := Prod.mk.inj h
      cases reply
  | _ =>
    obtain ⟨rfl, rfl⟩ := Prod.mk.inj h
    exact reply

variable {gate gate' : ConversationGate}

/-- The gate gives no response either. -/
lemma advance_source (h : advance agent request .resume input gate s p = (p', gate', s'))
    (reply : p'.reply? = some response) : Source agent request input p s' response := by
  cases p with
  | start =>
    simp only [advance] at h
    split at h
    · obtain ⟨rfl, -⟩ := Prod.mk.inj h
      cases reply
    · obtain ⟨rfl, -⟩ := Prod.mk.inj h
      split at reply <;> cases reply
  | leaving result =>
    obtain ⟨rfl, -⟩ := Prod.mk.inj h
    cases result with
    | error => cases reply
    | ok => exact .same reply
  | _ =>
    obtain ⟨moved, rest⟩ := Prod.mk.inj h
    exact resume_source (Prod.ext moved (Prod.mk.inj rest).2) reply

end Replies

section Executions

variable {agent : ChatRuntimeAgent} (requests : Nat → Request)

/-- The event is the end of an execution of the graph, with its result. -/
structure Executes (e : Event (System agent) Turn) : Prop where
  executing : ∃ lease current, e.pre.phases e.label.handler = .executing lease current
  resumed : e.label.action = .resume
  answered : e.label.input.delivery.answer = .ok ()

/-- The response that the execution gives. -/
def executed (e : Event (System agent) Turn) : ChatResponse :=
  (executeRun agent (requests e.label.handler).identity e.label.input.result e.label.input.report
    e.label.input.drawn).response

/-- The response was given by an execution for the run, up to the history flag in its metadata. -/
def Given (past : List (Event (System agent) Turn)) (key : String) (response : ChatResponse) : Prop :=
  ∃ e ∈ past, Executes e ∧ keyOf agent (requests e.label.handler) = key ∧
    ChatResponse.SameReply response (executed requests e)

/-- The run of a handler is bound to the payload of its request. -/
def Registered (s : System agent) (i : Nat) : Prop :=
  ∃ r, recordOf agent s.store (keyOf agent (requests i)) = some r ∧ r.Matches (requests i).identity

/-- Every payload that is stored is of a response that was given. -/
def StoresGiven (past : List (Event (System agent) Turn)) (s : System agent) : Prop :=
  ∀ k r payload, recordOf agent s.store k = some r → r.responsePayload = some payload →
    ∃ response : ChatResponse, Json.Same (.obj response.modelDump) (.obj payload) ∧ Given requests past k response

/-- Every response that there is was given by an execution, and everyone who answers or has executed is bound. -/
structure Sourced (past : List (Event (System agent) Turn)) (s : System agent) : Prop where
  replies : ∀ i response, (s.phases i).reply? = some response →
    Given requests past (keyOf agent (requests i)) response
  payloads : StoresGiven requests past s
  answering : ∀ i response, (s.phases i).reply? = some response → Registered requests s i
  executing : ∀ e ∈ past, Executes e → Registered requests s e.label.handler

variable {requests} {s s' final : System agent} {turn : Turn} {past events : List (Event (System agent) Turn)}
variable {response response' : ChatResponse} {k : String} {i j : Nat}

lemma executed_identity (e : Event (System agent) Turn) :
    (executed requests e).conversationId = (requests e.label.handler).identity.conversationId ∧
      (executed requests e).runId = (requests e.label.handler).identity.runId := by
  have conversation := (requests e.label.handler).identity.conversation_length.1
  have run := (requests e.label.handler).identity.run_length
  constructor
  · refine orText_some ?_ _
    intro empty
    rw [empty] at conversation
    cases conversation
  · refine orText_some ?_ _
    intro empty
    rw [empty] at run
    cases run

lemma Given.later (given : Given requests past k response) (e : Event (System agent) Turn) :
    Given requests (past ++ [e]) k response := by
  obtain ⟨e', mem, rest⟩ := given
  exact ⟨e', List.mem_append_left _ mem, rest⟩

lemma Given.same (given : Given requests past k response') (same : ChatResponse.SameReply response response') :
    Given requests past k response := by
  obtain ⟨e, mem, executes, key, same'⟩ := given
  exact ⟨e, mem, executes, key, same.trans same'⟩

lemma Registered.step (registered : Registered requests s i) (st : System.Step requests s turn s') :
    Registered requests s' i := by
  obtain ⟨_, -, ⟨-, same⟩ | adv⟩ := System.step_cases st
  · rw [Registered, same]
    exact registered
  · exact adv.change.known registered

lemma Registered.run (registered : Registered requests s i) (run : Run (System.Step requests) s events final) :
    Registered requests final i :=
  run.invariant (I := fun s => Registered requests s i) (G := fun _ => True)
    (fun _ st _ registered => registered.step st) (fun _ _ => trivial) registered

/-- Two handlers that are bound by the record of one run have the same payload. -/
lemma Registered.payload (registered : Registered requests s i) (registered' : Registered requests s j)
    (same : keyOf agent (requests i) = keyOf agent (requests j)) :
    SamePayload (requests i).identity (requests j).identity := by
  obtain ⟨r, found, m⟩ := registered
  obtain ⟨r', found', m'⟩ := registered'
  rw [same, found'] at found
  cases found
  exact samePayload_of_matches m m'

/-- Where a response comes from at a turn of the system. -/
lemma System.step_source (st : System.Step requests s turn s') (reply : (s'.phases i).reply? = some response) :
    (∃ response', (s.phases i).reply? = some response' ∧ ChatResponse.SameReply response response') ∨
    (∃ r, recordOf agent s'.store (keyOf agent (requests i)) = some r ∧ r.Matches (requests i).identity ∧
      Replays r response) ∨
    (i = turn.handler ∧ Executes ⟨s, turn, s'⟩ ∧ response = executed requests ⟨s, turn, s'⟩) := by
  obtain ⟨p', gate', advanced, phases, -⟩ := System.step_advance st
  obtain ⟨rfl, own⟩ | ⟨-, other⟩ := phase_cases phases i
  · rw [own] at reply
    cases action : turn.action with
    | heartbeat =>
      rw [action] at advanced
      obtain ⟨moved, rest⟩ := Prod.mk.inj advanced
      exact .inl ⟨response, heartbeat_reply (Prod.ext moved (Prod.mk.inj rest).2) reply, .refl _⟩
    | resume =>
      rw [action] at advanced
      cases advance_source advanced reply with
      | kept held same => exact .inl ⟨_, held, same⟩
      | replayed found m replays => exact .inr (.inl ⟨_, found, m, replays⟩)
      | executed phase answered e => exact .inr (.inr ⟨rfl, ⟨⟨_, _, phase⟩, action, answered⟩, e⟩)
  · rw [other] at reply
    exact .inl ⟨response, reply, .refl _⟩

/-- A replay gives a response that is stored. -/
lemma StoresGiven.replayed (stores : StoresGiven requests past s) {r : RunRecord}
    (found : recordOf agent s.store k = some r) (replays : Replays r response) :
    Given requests past k response := by
  obtain ⟨payload, drawn, stored, validated⟩ := replays
  simp only [replayablePayload] at stored
  split at stored
  · obtain ⟨response', same, given⟩ := stores k r payload found stored
    obtain ⟨response'', validated', reply, -⟩ := ChatResponse.modelValidate_same drawn same
    cases validated.symm.trans validated'
    exact given.same reply
  · cases stored

/-- What a turn stores is a response of the handler. -/
lemma Sourced.stores (sourced : Sourced requests past s) (inv : Inv requests s)
    (st : System.Step requests s turn s') : StoresGiven requests past s' := by
  intro k r payload found stored
  obtain ⟨_, -, ⟨-, same⟩ | adv⟩ := System.step_cases st
  · exact sourced.payloads k r payload (same ▸ found) stored
  -- a response that the handler is about to write is stored under the key of its own run
  have written {response : ChatResponse} {payload' : Option JsonObject}
      (held : (s.phases turn.handler).response? = some response) (key : k = keyOf agent (requests turn.handler))
      (keeps : Keeps (some response.modelDump) payload') (kept : payload' = some payload) :
      ∃ response : ChatResponse, Json.Same (.obj response.modelDump) (.obj payload) ∧
        Given requests past k response := by
    obtain ⟨object, rfl, same, -⟩ := replayable_of_keeps keeps (inv.responses turn.handler response held)
    cases kept
    exact ⟨response, same, key ▸ sourced.replies turn.handler response (Phase.reply?_of_response? held)⟩
  obtain ⟨r', r'', before, after, rewrite⟩ | ⟨-, none | ⟨r', after, -, empty⟩⟩ := adv.change.record k
  · cases found.symm.trans after
    cases rewrite with
    | same => exact sourced.payloads k _ payload before stored
    | acquire => exact sourced.payloads k r' payload before stored
    | renew => exact sourced.payloads k r' payload before stored
    | @persist lease _ _ _ _ phase key _ keeps =>
      obtain ⟨own, -⟩ := inv.held turn.handler lease (by rw [phase]; rfl)
      exact written (by rw [phase]; rfl) (key.trans own) keeps stored
    | interrupt => cases stored
    | commit held key keeps =>
      refine written (Phase.response?_of_stored? held) ?_ keeps stored
      obtain own | ⟨lease, leased, own⟩ := key
      · exact own
      · exact own.trans (inv.held turn.handler lease leased).1
  · cases found.symm.trans none
  · cases found.symm.trans after
    cases empty.symm.trans stored

lemma Sourced.start (now : Time) : Sourced requests [] (System.start agent now) where
  replies i response none := by cases none
  payloads k r payload found := by cases (agent.store.empty_record k).symm.trans found
  answering i response none := by cases none
  executing e mem := by cases mem

lemma Sourced.step (sourced : Sourced requests past s) (inv : Inv requests s)
    (st : System.Step requests s turn s') : Sourced requests (past ++ [⟨s, turn, s'⟩]) s' := by
  have stores := sourced.stores inv st
  have bound (executes : Executes (⟨s, turn, s'⟩ : Event (System agent) Turn)) :
      Registered requests s' turn.handler := by
    obtain ⟨lease, current, phase⟩ := executes.executing
    have registered : Registered requests s turn.handler := inv.known turn.handler (by rw [phase]; rfl)
    exact registered.step st
  refine ⟨?_, ?_, ?_, ?_⟩
  · intro i response reply
    obtain ⟨response', held, same⟩ | ⟨r, found, -, replays⟩ | ⟨rfl, executes, rfl⟩ := System.step_source st reply
    · exact ((sourced.replies i response' held).same same).later _
    · exact (stores.replayed found replays).later _
    · exact ⟨_, List.mem_append_right _ (.head _), executes, rfl, .refl _⟩
  · intro k r payload found stored
    obtain ⟨response, same, given⟩ := stores k r payload found stored
    exact ⟨response, same, given.later _⟩
  · intro i response reply
    obtain ⟨response', held, -⟩ | ⟨r, found, m, -⟩ | ⟨rfl, executes, -⟩ := System.step_source st reply
    · exact (sourced.answering i response' held).step st
    · exact ⟨r, found, m⟩
    · exact bound executes
  · intro e mem executes
    rcases List.mem_append.mp mem with before | last
    · exact (sourced.executing e before executes).step st
    · cases List.mem_singleton.mp last
      exact bound executes

variable {now : Time}

lemma Sourced.run (run : Run (System.Step requests) (.start agent now) events final) :
    Sourced requests events final := by
  have both : Inv requests final ∧ Sourced requests events final :=
    run.invariant_history (I := fun past s => Inv requests s ∧ Sourced requests past s)
      (fun past e st h => ⟨h.1.step st, h.2.step h.1 st⟩) ⟨.start now, .start now⟩
  exact both.2

/-- The execution that a response was given by is of a request with the same payload. -/
lemma Sourced.origin (sourced : Sourced requests events final)
    (reply : (final.phases i).reply? = some response) :
    ∃ e ∈ events, Executes e ∧ keyOf agent (requests e.label.handler) = keyOf agent (requests i) ∧
      SamePayload (requests e.label.handler).identity (requests i).identity ∧
      ChatResponse.SameReply response (executed requests e) := by
  obtain ⟨e, mem, executes, key, same⟩ := sourced.replies i response reply
  have payload : SamePayload (requests e.label.handler).identity (requests i).identity :=
    (sourced.executing e mem executes).payload (sourced.answering i response reply) key
  exact ⟨e, mem, executes, key, payload, same⟩

lemma Sourced.conversation (sourced : Sourced requests events final)
    (reply : (final.phases i).reply? = some response) :
    response.conversationId = (requests i).identity.conversationId := by
  obtain ⟨e, -, -, -, payload, same⟩ := sourced.origin reply
  have named : (executed requests e).conversationId = (requests e.label.handler).identity.conversationId :=
    (executed_identity e).1
  calc response.conversationId
    _ = (executed requests e).conversationId := same.conversationId
    _ = (requests e.label.handler).identity.conversationId := named
    _ = (requests i).identity.conversationId := payload.conversation

/-- A run has one payload: in every interleaving, two handlers that get past the lookup of their run, at any two
    moments, have the same payload if they handle the same run. -/
theorem one_payload_per_run (run : Run (System.Step requests) (.start agent now) events final)
    {e e' : Event (System agent) Turn} (mem : e ∈ events) (mem' : e' ∈ events)
    (passed : (e.post.phases i).knows = true) (passed' : (e'.post.phases j).knows = true)
    (same : keyOf agent (requests i) = keyOf agent (requests j)) :
    SamePayload (requests i).identity (requests j).identity := by
  have registered {e : Event (System agent) Turn} {i : Nat} (mem : e ∈ events)
      (passed : (e.post.phases i).knows = true) : Registered requests final i := by
    obtain ⟨before, after, rfl⟩ := List.append_of_mem mem
    obtain ⟨middle, first, rest⟩ := run.split
    obtain ⟨rfl, st, later⟩ := rest.head
    have known : Registered requests e.post i := ((Inv.run first).step st).known i passed
    exact known.run later
  exact (registered mem passed).payload (registered mem' passed') same

end Executions

section Samples

/-- What happens when the handlers of the examples go on in this order. -/
def resentEvents (handlers : List Nat) : List (Event (System sampleRuntime) Turn) :=
  System.history sampleRequest (.start sampleRuntime 0) (sampleTurns handlers)

lemma crossed_second : 1 < (resentEvents [0, 0, 1, 1]).length := by decide

lemma crossed_last : 3 < (resentEvents [0, 0, 1, 1]).length := by decide

theorem one_payload_per_run_crossed : SamePayload (sampleRequest 0).identity (sampleRequest 1).identity := by
  have run : Run (System.Step sampleRequest) (.start sampleRuntime 0) (resentEvents [0, 0, 1, 1])
      (System.after sampleRequest (.start sampleRuntime 0) (sampleTurns [0, 0, 1, 1])) :=
    System.run_history _ _ _ (by decide) (by decide)
  -- each of the two gets past the lookup at its second turn
  have passed : (((resentEvents [0, 0, 1, 1]).get ⟨1, crossed_second⟩).post.phases 0).knows = true := by
    decide
  have passed' : (((resentEvents [0, 0, 1, 1]).get ⟨3, crossed_last⟩).post.phases 1).knows = true := by
    decide
  exact one_payload_per_run run (List.get_mem _ _) (List.get_mem _ _) passed passed' rfl

end Samples

end AgentRuntime.Orchestration
