import AgentRuntime.Lib.WriteOnce
import AgentRuntime.Orchestration.Invariants

/-!
# Durable outcomes

The outcome of a run is durable when its record is completed or failed with a response payload. The
outcomes of a system are a table that should be written once. `acquire` and the interrupting
`mark_terminal` do not look at the outcome, and a handler may start the graph under a lease that was taken
over; as long as no step does one of these three on a settled run, the fencing tokens see to the rest.
-/

namespace AgentRuntime.Orchestration
open State Transition WriteOnce

/-- The identity and the text of a stored response. -/
structure StoredReply where
  conversationId : Option String
  runId : Option String
  response : Option String
deriving DecidableEq

/-- What a payload stores. -/
def storedReply (payload : JsonObject) : StoredReply where
  conversationId := ChatResponse.textField payload "conversation_id"
  runId := ChatResponse.textField payload "run_id"
  response := ChatResponse.textField payload "response"

/-- What is stored for a response. -/
def ChatResponse.reply (response : ChatResponse) : StoredReply where
  conversationId := some response.conversationId
  runId := some response.runId
  response := some response.response

lemma storedReply_same {response : ChatResponse} {payload : JsonObject}
    (same : Json.Same (.obj response.modelDump) (.obj payload)) :
    storedReply payload = response.reply := by
  simp only [storedReply, ChatResponse.reply, StoredReply.mk.injEq]
  exact ⟨ChatResponse.textField_same same "conversation_id" rfl,
    ChatResponse.textField_same same "run_id" rfl, ChatResponse.textField_same same "response" rfl⟩

lemma ChatResponse.SameReply.reply {r r' : ChatResponse} (same : SameReply r r') :
    r.reply = r'.reply := by
  simp only [ChatResponse.reply, same.conversationId, same.runId, same.response]

/-- The durable outcome of a record: its status and what its payload stores. -/
def durableOutcome (record : RunRecord) : Option (RunStatus × StoredReply) :=
  if record.status = .completed ∨ record.status = .failed then
    record.responsePayload.map fun payload => (record.status, storedReply payload)
  else none

lemma durableOutcome_congr {r r' : RunRecord} (status : r'.status = r.status)
    (payload : r'.responsePayload = r.responsePayload) : durableOutcome r' = durableOutcome r := by
  simp only [durableOutcome, status, payload]

lemma durableOutcome_open {r : RunRecord} (completed : r.status ≠ .completed)
    (failed : r.status ≠ .failed) : durableOutcome r = none := by
  simp [durableOutcome, completed, failed]

lemma durableOutcome_empty {r : RunRecord} (payload : r.responsePayload = none) :
    durableOutcome r = none := by
  simp [durableOutcome, payload]

lemma durableOutcome_some {r : RunRecord} {payload : JsonObject}
    (ended : r.status = .completed ∨ r.status = .failed)
    (stored : r.responsePayload = some payload) :
    durableOutcome r = some (r.status, storedReply payload) := by
  rw [durableOutcome, if_pos ended, stored]
  rfl

lemma durableOutcome_inv {r : RunRecord} {status : RunStatus} {reply : StoredReply}
    (h : durableOutcome r = some (status, reply)) :
    r.status = status ∧ (r.status = .completed ∨ r.status = .failed) ∧
      ∃ payload, r.responsePayload = some payload ∧ storedReply payload = reply := by
  simp only [durableOutcome] at h
  split at h
  · next ended =>
    obtain ⟨payload, stored, e⟩ := Option.map_eq_some_iff.mp h
    cases e
    exact ⟨rfl, ended, payload, stored, rfl⟩
  · cases h

lemma ExecutionStatus.isOver (status : ExecutionStatus) :
    status.toOutcomeStatus.toRunStatus = .completed ∨
      status.toOutcomeStatus.toRunStatus = .failed := by
  cases status
  · exact .inl rfl
  · exact .inr rfl

section Outcomes

variable {agent : ChatRuntimeAgent} (requests : Nat → Request)

/-- The durable outcome of a run. -/
def System.outcome (s : System agent) (key : String) : Option (RunStatus × StoredReply) :=
  (recordOf agent s.store key).bind durableOutcome

/-- The run that the handler of an event handles. -/
def eventKey (e : Event (System agent) Turn) : String := keyOf agent (requests e.label.handler)

/-- The event starts the graph. -/
def StartsGraph (e : Event (System agent) Turn) (lease : RunLease) : Prop :=
  ∃ current, e.pre.phases e.label.handler = .preparing lease current ∧
    e.post.phases e.label.handler = .executing lease current

/-- The event marks a run interrupted, and the repository accepts it. -/
def Interrupts (e : Event (System agent) Turn) (key : String) : Prop :=
  ∃ lease reason error, e.pre.phases e.label.handler = .interrupting lease reason error ∧
    e.label.input.delivery.made = true ∧
    agent.store.contract.takes e.pre.store e.label.input.now lease (interruption reason) ∧
    key = agent.store.contract.key lease.runId

/-- The event acquires the conversation for a run. -/
def Acquires (e : Event (System agent) Turn) : Prop :=
  e.pre.phases e.label.handler = .acquiring ∧ e.label.input.delivery.made = true

/-- The event takes nothing back: what it acquires or marks interrupted is not settled. -/
structure KeepsSettled (e : Event (System agent) Turn) : Prop where
  acquire : Acquires e → e.pre.outcome (eventKey requests e) = none
  interrupt : ∀ key, Interrupts e key → e.pre.outcome key = none

/-- The graph is started under the lease that was granted last only. -/
def StartsFenced (e : Event (System agent) Turn) : Prop :=
  ∀ lease, StartsGraph e lease →
    lease.fencingToken = tokenOf agent e.pre.store lease.conversationId

/-- Once an outcome is durable, no later step changes its status or what is stored of the response, and
    none starts the graph for this run. -/
def OutcomesStand (events : List (Event (System agent) Turn)) : Prop :=
  ∀ before e after, events = before ++ e :: after → ∀ key outcome,
    e.pre.outcome key = some outcome → ∀ e' ∈ e :: after,
      e'.post.outcome key = some outcome ∧ ∀ lease, StartsGraph e' lease → eventKey requests e' ≠ key

/-- What holds as long as no event takes a settled run back: no handler that is still to persist an
    outcome holds the last token of a settled run, and a stored response is the durable one. -/
structure Settled (s : System agent) : Prop where
  unpersisted : ∀ i lease, (s.phases i).unpersisted? = some lease →
    s.outcome (keyOf agent (requests i)) ≠ none →
    lease.fencingToken < tokenOf agent s.store (requests i).identity.conversationId
  stored : ∀ i response, (s.phases i).stored? = some response →
    ∃ status, s.outcome (keyOf agent (requests i)) = some (status, response.reply)

end Outcomes

section Preserved

variable {agent : ChatRuntimeAgent} {requests : Nat → Request} {s s' : System agent} {turn : Turn}

lemma Settled.start (now : Time) : Settled requests (System.start agent now) where
  unpersisted _ _ := nofun
  stored _ _ := nofun

lemma outcome_record {key : String} {r : RunRecord}
    (found : recordOf agent s.store key = some r) : s.outcome key = durableOutcome r := by
  simp only [System.outcome, found, Option.bind_some]

/-- A handler whose `mark_terminal` is accepted holds the last token of its conversation. -/
lemma Inv.takes_last (inv : Inv requests s) {i : Nat} {lease : RunLease} {now : Time}
    {outcome : Outcome} (held : (s.phases i).lease? = some lease)
    (takes : agent.store.contract.takes s.store now lease outcome) :
    tokenOf agent s.store (requests i).identity.conversationId = lease.fencingToken := by
  obtain ⟨r, found, m⟩ := inv.known i (Phase.knows_of_lease? held)
  obtain ⟨key, conversation, -⟩ := inv.held i lease held
  rw [← conversation]
  exact agent.store.contract.takes_fenced inv.store takes (key ▸ found)
    (m.conversation.trans conversation.symm)

/-- Two handlers of one run are handlers of one conversation. -/
lemma Inv.same_conversation (inv : Inv requests s) {i j : Nat} (known : (s.phases i).knows = true)
    (known' : (s.phases j).knows = true)
    (same : keyOf agent (requests i) = keyOf agent (requests j)) :
    (requests i).identity.conversationId = (requests j).identity.conversationId := by
  obtain ⟨r, found, m⟩ := inv.known i known
  obtain ⟨r', found', m'⟩ := inv.known j known'
  rw [same, found'] at found
  cases found
  exact m.conversation.symm.trans m'.conversation

/-- What becomes of an outcome at a turn that takes nothing back: a durable one stays, and another
    becomes durable only when the handler of the turn persists it under the last token. -/
lemma outcome_step (inv : Inv requests s) (settled : Settled requests s) {p' : Phase}
    (adv : Advance agent (requests turn.handler) turn.input (s.phases turn.handler) s.store p'
      s'.store)
    (keeps : KeepsSettled requests ⟨s, turn, s'⟩) (key : String) :
    (∀ outcome, s.outcome key = some outcome → s'.outcome key = some outcome) ∧
    (s.outcome key = none → s'.outcome key = none ∨
      ∃ lease, (s.phases turn.handler).persists = true ∧
        (s.phases turn.handler).lease? = some lease ∧
        key = keyOf agent (requests turn.handler) ∧
        tokenOf agent s.store (requests turn.handler).identity.conversationId =
          lease.fencingToken) := by
  obtain ⟨r, r', before, after, rewrite⟩ | ⟨none, none' | ⟨r', after, pending, -⟩⟩ :=
    adv.change.record key
  · have unchanged (same : durableOutcome r' = durableOutcome r) :
        s'.outcome key = s.outcome key := by
      rw [outcome_record before, outcome_record after, same]
    cases rewrite with
    | same =>
      have same := unchanged rfl
      exact ⟨fun outcome h => same.trans h, fun h => .inl (same.trans h)⟩
    | renew =>
      have same := unchanged (durableOutcome_congr rfl rfl)
      exact ⟨fun outcome h => same.trans h, fun h => .inl (same.trans h)⟩
    | acquire acquiring run made =>
      -- the run is opened again, which `keeps` allows of a run without an outcome only
      have opened := keeps.acquire ⟨acquiring, made⟩
      refine ⟨fun outcome h => ?_, fun _ => .inl ?_⟩
      · rw [run] at h
        cases opened.symm.trans h
      · rw [outcome_record after]
        exact durableOutcome_open nofun nofun
    | @persist lease execution checkpointId r payload phase run takes kept =>
      have held : (s.phases turn.handler).lease? = some lease := by
        rw [phase]
        rfl
      have last := inv.takes_last held takes
      have run' : key = keyOf agent (requests turn.handler) :=
        run.trans (inv.held _ lease held).1
      refine ⟨fun outcome h => ?_, fun _ => .inr ⟨lease, ?_, held, run', last⟩⟩
      -- a run with an outcome is worked on under an older token only
      · have lt := settled.unpersisted turn.handler lease (by rw [phase]; rfl)
          (by rw [← run', h]; exact nofun)
        exact absurd last lt.ne'
      · rw [phase]
        rfl
    | interrupt phase run made takes =>
      have opened := keeps.interrupt key ⟨_, _, _, phase, made, takes, run⟩
      refine ⟨fun outcome h => ?_, fun _ => .inl ?_⟩
      · cases opened.symm.trans h
      · rw [outcome_record after]
        exact durableOutcome_empty rfl
    -- the history is committed along with the response that is stored
    | @commit response r kept committedAt stored run keeps =>
      obtain ⟨status, durable⟩ := settled.stored turn.handler response stored
      have run' : key = keyOf agent (requests turn.handler) := by
        obtain run | ⟨lease, held, run⟩ := run
        · exact run
        · exact run.trans (inv.held _ lease held).1
      obtain ⟨object, rfl, same⟩ := keeps.object _ rfl nofun
      rw [← run'] at durable
      refine ⟨fun outcome h => ?_, fun h => ?_⟩
      · cases durable.symm.trans h
        rw [outcome_record before] at durable
        obtain ⟨rfl, ended, -⟩ := durableOutcome_inv durable
        rw [outcome_record after, ← storedReply_same same]
        exact durableOutcome_some ended rfl
      · cases durable.symm.trans h
  · refine ⟨fun outcome h => ?_, fun _ => .inl ?_⟩
    · simp [System.outcome, none] at h
    · simp [System.outcome, none']
  · refine ⟨fun outcome h => ?_, fun _ => .inl ?_⟩
    · simp [System.outcome, none] at h
    · rw [outcome_record after]
      exact durableOutcome_open (by rw [pending]; nofun) (by rw [pending]; nofun)

/-- A replayed response is the durable one. -/
lemma replays_durable {r : RunRecord} {response : ChatResponse} (handled : r.status ∈ handled)
    (replayable : ∀ payload, r.responsePayload = some payload → Replayable payload)
    (replays : Replays r response) : durableOutcome r = some (r.status, response.reply) := by
  obtain ⟨payload, drawn, found, validated⟩ := replays
  simp only [replayablePayload] at found
  split at found
  · next mem =>
    have ended : r.status = .completed ∨ r.status = .failed := by
      revert mem handled
      cases r.status <;> decide
    obtain ⟨-, stored, same, reply⟩ := (replayable payload found).validated validated
    rw [durableOutcome_some ended found, storedReply_same same, reply.reply]
  · cases found

/-- A persisted response is the durable one. -/
lemma persisted_durable (inv : Inv requests s) {response : ChatResponse}
    (persisted : Persisted agent (s.phases turn.handler) s'.store response) :
    ∃ status, s'.outcome (keyOf agent (requests turn.handler)) = some (status, response.reply) := by
  obtain ⟨lease, execution, checkpointId, r, payload, phase, rfl, found, status, stored, keeps⟩ :=
    persisted
  have held : (s.phases turn.handler).lease? = some lease := by
    rw [phase]
    rfl
  obtain ⟨object, rfl, same⟩ := keeps.object _ rfl nofun
  rw [(inv.held _ lease held).1] at found
  refine ⟨r.status, ?_⟩
  rw [outcome_record found, ← storedReply_same same]
  exact durableOutcome_some (status ▸ execution.status.isOver) stored

/-- A turn that takes nothing back extends the durable outcomes, and keeps what holds as long as no
    turn takes anything back. -/
lemma Settled.step (settled : Settled requests s) (inv : Inv requests s)
    (st : System.Step requests s turn s') (keeps : KeepsSettled requests ⟨s, turn, s'⟩) :
    Settled requests s' ∧ Extends s.outcome s'.outcome := by
  have inv' := inv.step st
  obtain ⟨p', phases, ⟨rfl, same⟩ | adv⟩ := System.step_cases st
  · rw [Function.update_eq_self] at phases
    obtain ⟨clock, t, gates, ps⟩ := s
    obtain ⟨clock', t', gates', ps'⟩ := s'
    simp only at same phases
    subst same phases
    exact ⟨⟨settled.unpersisted, settled.stored⟩, fun _ _ h => h⟩
  · have extended : Extends s.outcome s'.outcome := fun key =>
      (outcome_step inv settled adv keeps key).1
    refine ⟨⟨fun j lease held durable => ?_, fun j response held => ?_⟩, extended⟩
    · have le := adv.change.token_le (requests j).identity.conversationId
      cases before : s.outcome (keyOf agent (requests j)) with
      -- the outcome was durable before the turn
      | some outcome =>
        obtain ⟨rfl, e⟩ | ⟨ne, e⟩ := phase_cases phases j
        · obtain ⟨held', -⟩ | granted := adv.unpersisted lease (e ▸ held)
          · exact (settled.unpersisted _ lease held' (by rw [before]; nofun)).trans_le le
          · obtain ⟨r, found, running⟩ := granted.acquired
            rw [outcome_record found] at durable
            exact absurd (durableOutcome_open (by rw [running]; nofun) (by rw [running]; nofun))
              durable
        · exact (settled.unpersisted j lease (e ▸ held) (by rw [before]; nofun)).trans_le le
      | none =>
        obtain empty | ⟨lease', persists, held', run, last⟩ :=
          (outcome_step inv settled adv keeps _).2 before
        · exact absurd empty durable
        · obtain ⟨rfl, e⟩ | ⟨ne, e⟩ := phase_cases phases j
          · obtain ⟨-, working⟩ | granted := adv.unpersisted lease (e ▸ held)
            · cases working.symm.trans persists
            · obtain ⟨r, found, running⟩ := granted.acquired
              rw [outcome_record found] at durable
              exact absurd (durableOutcome_open (by rw [running]; nofun) (by rw [running]; nofun))
                durable
          · -- the handler of the turn has just persisted the outcome under the last token
            have held := Phase.lease?_of_unpersisted? (e ▸ held)
            have conversation := inv.same_conversation (Phase.knows_of_lease? held)
              (Phase.knows_of_lease? held') run
            have handedOut := (inv.held j lease held).2.2
            have distinct := inv.distinct j _ lease lease' ne held held' conversation
            rw [← conversation] at last
            omega
    · obtain ⟨rfl, e⟩ | ⟨ne, e⟩ := phase_cases phases j
      · obtain ⟨response', before, same⟩ | ⟨r, found, replays⟩ | persisted :=
          adv.stored response (e ▸ held)
        · obtain ⟨status, durable⟩ := settled.stored _ response' before
          exact ⟨status, extended _ _ (same.reply ▸ durable)⟩
        · refine ⟨r.status, ?_⟩
          rw [outcome_record found]
          exact replays_durable (inv'.statuses _ r found) (fun payload => inv'.payloads _ r payload found)
            replays
        · exact persisted_durable inv persisted
      · obtain ⟨status, durable⟩ := settled.stored j response (e ▸ held)
        exact ⟨status, extended _ _ durable⟩

/-- The graph is not started for a settled run under the lease that was granted last. -/
lemma Settled.starts (settled : Settled requests s) (inv : Inv requests s)
    {lease : RunLease} (starts : StartsGraph ⟨s, turn, s'⟩ lease)
    (fenced : StartsFenced (⟨s, turn, s'⟩ : Event (System agent) Turn)) :
    s.outcome (keyOf agent (requests turn.handler)) = none := by
  have last := fenced lease starts
  obtain ⟨current, phase, -⟩ := starts
  by_contra durable
  have held : (s.phases turn.handler).unpersisted? = some lease := by
    rw [show s.phases turn.handler = .preparing lease current from phase]
    rfl
  have lt := settled.unpersisted _ lease held durable
  rw [(inv.held _ lease (Phase.lease?_of_unpersisted? held)).2.1] at last
  exact absurd last lt.ne

end Preserved

section Runs

variable {agent : ChatRuntimeAgent} {requests : Nat → Request}
variable {events : List (Event (System agent) Turn)} {final : System agent} {now : Time}

/-- In a run whose events take nothing back, both kinds of invariants hold throughout, and every durable
    outcome stands. -/
lemma settled_run {s : System agent} (inv : Inv requests s) (settled : Settled requests s)
    (run : Run (System.Step requests) s events final)
    (keeps : ∀ e ∈ events, KeepsSettled requests e) :
    ∀ e ∈ events, (Inv requests e.pre ∧ Settled requests e.pre) ∧
      Extends s.outcome e.pre.outcome ∧ Extends s.outcome e.post.outcome := by
  refine Run.written (I := fun c => Inv requests c ∧ Settled requests c) System.outcome run ?_ keeps
    ⟨inv, settled⟩
  rintro e st keeps ⟨inv, settled⟩
  obtain ⟨settled', extended⟩ := settled.step inv st keeps
  exact ⟨⟨inv.step st, settled'⟩, extended⟩

/-- A check of a turn on the state before it: it takes nothing back, and starts the graph under the
    lease that was granted last. -/
def settledCheck (requests : Nat → Request) (e : Event (System agent) Turn) : Bool :=
  match e.pre.phases e.label.handler with
  | .acquiring => e.pre.outcome (eventKey requests e) = none
  | .interrupting lease _ _ => e.pre.outcome (agent.store.contract.key lease.runId) = none
  | .preparing lease _ => lease.fencingToken = tokenOf agent e.pre.store lease.conversationId
  | _ => true

lemma keepsSettled_of_check {e : Event (System agent) Turn}
    (check : settledCheck requests e = true) : KeepsSettled requests e where
  acquire h := by
    simp only [settledCheck, h.1] at check
    exact of_decide_eq_true check
  interrupt key h := by
    obtain ⟨lease, reason, error, phase, -, -, rfl⟩ := h
    simp only [settledCheck, phase] at check
    exact of_decide_eq_true check

lemma startsFenced_of_check {e : Event (System agent) Turn}
    (check : settledCheck requests e = true) : StartsFenced e := by
  rintro lease ⟨current, phase, -⟩
  simp only [settledCheck, phase] at check
  exact of_decide_eq_true check

/-- Every interleaving of handlers keeps every durable outcome and executes no settled run again, if
    no event acquires a settled run or marks one interrupted, and the graph is started only under the
    lease that was granted last. -/
theorem outcomes_stand (agent : ChatRuntimeAgent) (requests : Nat → Request) {now : Time}
    {events : List (Event (System agent) Turn)} {final : System agent}
    (run : Run (System.Step requests) (System.start agent now) events final)
    (keeps : ∀ e ∈ events, KeepsSettled requests e) (fenced : ∀ e ∈ events, StartsFenced e) :
    OutcomesStand requests events := by
  rintro before e after rfl key outcome durable e' mem
  have whole := settled_run (.start now) (.start now) run keeps
  obtain ⟨middle, -, rest⟩ := run.split
  obtain ⟨rfl, -, -⟩ := rest.head
  obtain ⟨inv, settled⟩ := (whole e (List.mem_append_right _ (.head _))).1
  obtain ⟨⟨inv', settled'⟩, pre, post⟩ := settled_run inv settled rest
    (fun e mem => keeps e (List.mem_append_right _ mem)) e' mem
  refine ⟨post key outcome durable, fun lease starts same => ?_⟩
  have opened := settled'.starts inv' starts (fenced e' (List.mem_append_right _ mem))
  rw [show keyOf agent (requests e'.label.handler) = key from same] at opened
  cases opened.symm.trans (pre key outcome durable)

/-- A second process replays the outcome of the first. -/
theorem outcomes_stand_replay :
    OutcomesStand sampleRequest (System.history sampleRequest (System.start sampleRuntime 0)
      (sampleTurns (wholeHandling 0 ++ wholeHandling 1))) := by
  have checked : ∀ e ∈ System.history sampleRequest (System.start sampleRuntime 0)
      (sampleTurns (wholeHandling 0 ++ wholeHandling 1)), settledCheck sampleRequest e = true :=
    List.all_eq_true.mp (by decide +kernel)
  exact outcomes_stand sampleRuntime sampleRequest
    (System.run_history _ _ _ (by decide +kernel) (by decide +kernel))
    (fun e mem => keepsSettled_of_check (checked e mem))
    (fun e mem => startsFenced_of_check (checked e mem))

/-- Outcomes that stand are the same after more turns. -/
lemma OutcomesStand.after {s : System agent} {turns : List Turn} {turn last : Turn}
    {middle : List Turn}
    (stand : OutcomesStand requests
      (System.history requests s (turns ++ turn :: (middle ++ [last]))))
    {key : String} {outcome : RunStatus × StoredReply}
    (durable : (System.after requests s turns).outcome key = some outcome) :
    (System.after requests s (turns ++ turn :: (middle ++ [last]))).outcome key = some outcome := by
  let before := System.after requests (System.take requests (System.after requests s turns) turn)
    middle
  have final : System.after requests s (turns ++ turn :: (middle ++ [last])) =
      System.take requests before last := by
    rw [System.after_append]
    exact System.after_append requests _ middle [last]
  rw [System.history_append] at stand
  rw [final]
  refine (stand _ _ _ rfl key outcome durable ⟨before, last, _⟩ (.tail _ ?_)).1
  rw [System.history_append]
  exact List.mem_append_right _ (.head _)

/-- A retry whose preflight found the run pending acquires it when the first send has completed it:
    the outcome is taken back. -/
theorem outcome_taken_back :
    ¬ ∀ (agent : ChatRuntimeAgent) (requests : Nat → Request) (now : Time)
      (events : List (Event (System agent) Turn)) (final : System agent),
      Run (System.Step requests) (System.start agent now) events final →
      OutcomesStand requests events := by
  intro claim
  -- both sends pass the preflight before the first one acquires the conversation
  let turns := sampleTurns [0, 0, 1, 1, 0, 1, 0, 0, 0, 0, 0]
  let middle := sampleTurns [0, 0]
  let turn : Turn := { handler := 0, input := sampleInput }
  let last : Turn := { handler := 1, input := sampleInput }
  let s := System.start sampleRuntime 0
  let key := "11111111-1111-4111-8111-111111111111"
  have stand := claim _ _ _ _ _ (System.run_history sampleRequest s
    (turns ++ turn :: (middle ++ [last])) (by decide +kernel) (by decide +kernel))
  have durable : ((System.after sampleRequest s turns).outcome key).isSome = true := by
    decide +kernel
  obtain ⟨outcome, durable⟩ := Option.isSome_iff_exists.mp durable
  have lost : (System.after sampleRequest s (turns ++ turn :: (middle ++ [last]))).outcome key =
      none := by
    decide +kernel
  cases lost.symm.trans (stand.after durable)

end Runs

end AgentRuntime.Orchestration
