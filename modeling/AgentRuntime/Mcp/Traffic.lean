import AgentRuntime.Lib.Run
import AgentRuntime.Mcp.Client
import AgentRuntime.Mcp.SingleFlight

/-!
# Concurrent calls of the MCP client

Any number of calls of one client, each going from await to await; the calls interleave in any order, and
the server and the network answer as they like. The invariant says of every call which of its requests
(`tools/list` or `tools/call`) were handed to the HTTP client so far: none before it is sent, one while an
expired session is recovered, and a second one only behind a recovery, with the credentials of a newer
session.
-/

namespace AgentRuntime.Mcp
open State Transition

/-- The client and everyone who calls it. -/
structure Traffic where
  clock : Time
  client : ClientState
  phases : Nat → Phase

/-- One call goes on. -/
structure Resumption where
  id : Nat
  input : ClientInput
  now : Time

namespace Traffic

variable (client : MCPClient)

/-- No call was made. -/
def start (clock : Time) : Traffic where
  clock := clock
  client := client.fresh
  phases _ := .idle

/-- The traffic after a call went on, where it can, on a clock that does not go back. -/
def take (s : Traffic) (go : Resumption) : Option Traffic :=
  if s.clock ≤ go.now then
    (client.advance go.id s.client go.now (s.phases go.id) go.input).map fun (state, phase) =>
      { clock := go.now, client := state, phases := Function.update s.phases go.id phase }
  else none

/-- A call goes on. -/
def Step (s : Traffic) (go : Resumption) (s' : Traffic) : Prop := s.take client go = some s'

end Traffic

/-- The message is a request for a tool list or a call of a tool. -/
def isRequest (payload : JsonObject) : Bool :=
  isText "tools/list" (payload.get? "method") || isText "tools/call" (payload.get? "method")

/-- The requests of a call that were handed to the HTTP client. -/
def requestsOf (id : Nat) (sent : List Transmission) : List Transmission :=
  sent.filter fun t => t.call = id && !t.redirected && isRequest t.post.payload

/-- The request of the task. -/
def Task.Requests (task : Task) (post : Post) : Prop :=
  isText task.method (post.payload.get? "method") = true ∧ isRequest post.payload = true

/-- The message on its way is the request itself or comes after it. -/
def Exchange.handed (exchange : Exchange) (delivery : Delivery) : Bool :=
  exchange.reply.isSome || delivery ≠ .queued

/-- The replies of the exchange are no requests. -/
def Exchange.RepliesOnly (exchange : Exchange) : Prop :=
  ∀ reply ∈ exchange.reply, isRequest reply.1.payload = false

section Standing

-- `expired` tells for which generations the call has seen its session expire
variable (expired : Nat → Prop) (own : List Transmission) (generation : Nat)

/-- The call has sent the request of its task, and observed this generation. -/
def SentOnce (task : Task) (observed : Nat) : Prop :=
  ∃ t, own = [t] ∧ t.post.generation = observed ∧ task.Requests t.post

/-- What a call has sent that wants the session. -/
def SentFor (task : Task) : Purpose → Prop
  | .ensure => own = []
  | .recover observed => SentOnce own task observed ∧ expired observed

/-- The session is newer than the one that the call saw expire. -/
def Newer : Purpose → Prop
  | .ensure => True
  | .recover observed => observed < generation

/-- The session is no older than the one that the call saw expire. -/
def NotOlder : Purpose → Prop
  | .ensure => True
  | .recover observed => observed ≤ generation

/-- A first request of a tool list, whose session expired, and a second one with the credentials of a
    newer session. -/
structure Resent (first second : Transmission) : Prop where
  expired : expired first.post.generation
  newer : first.post.generation < second.post.generation
  initialized : second.post.initialized = true
  list : isText "tools/list" (first.post.payload.get? "method") = true
  list' : isText "tools/list" (second.post.payload.get? "method") = true

/-- The requests of a call that is over. -/
def SentAtMost : Prop :=
  own = [] ∨ (∃ t, own = [t]) ∨ ∃ first second, own = [first, second] ∧ Resent expired first second

/-- The requests that a call has handed over, by its stage. The flag says whether the request of the
    exchange is among them. -/
def StandingIn (task : Task) (request : Post) (handed : Bool) : Stage → Prop
  | .initializing why | .notifying why =>
    SentFor expired own task why ∧ Newer generation why ∧ isRequest request.payload = false
  | .sending observed =>
    observed ≤ generation ∧ request.generation = observed ∧ task.Requests request ∧
      if handed then ∃ t, own = [t] ∧ t.post = request else own = []
  | .resending =>
    ∃ first second, second.post = request ∧ Resent expired first second ∧
      own = if handed then [first, second] else [first]

/-- The requests that a call has handed over, by where it stands. -/
def Standing : Phase → Prop
  | .idle | .waitingTools _ _ | .closing _ => own = []
  | .waitingSession task why => SentFor expired own task why ∧ NotOlder generation why
  | .exchanging task stage exchange delivery =>
    exchange.RepliesOnly ∧
      StandingIn expired own generation task exchange.request (exchange.handed delivery) stage
  | .done _ => SentAtMost expired own

end Standing

section Helpers

variable {client : MCPClient} {id : Nat} {s : ClientState} {now : Time} {task : Task}
  {expired : Nat → Prop} {own : List Transmission}

/-- A call that goes on has handed nothing over yet, takes no generation back, and ends up where its
    requests allow it to stand. -/
structure Leads (s : ClientState) (expired : Nat → Prop) (own : List Transmission)
    (result : ClientState × Phase) : Prop where
  sent : result.1.sent = s.sent
  grows : s.session.generation ≤ result.1.session.generation
  stands : Standing expired own result.1.session.generation result.2

lemma SentOnce.atMost {observed : Nat} (once : SentOnce own task observed) : SentAtMost expired own := by
  obtain ⟨t, sent, -⟩ := once
  exact .inr (.inl ⟨t, sent⟩)

lemma SentFor.atMost {why : Purpose} (sent : SentFor expired own task why) : SentAtMost expired own := by
  cases why with
  | ensure => exact .inl sent
  | recover => exact SentOnce.atMost sent.1

lemma Leads.before {s0 : ClientState} {result : ClientState × Phase} (leads : Leads s expired own result)
    (sent : s.sent = s0.sent) (grows : s0.session.generation ≤ s.session.generation) :
    Leads s0 expired own result :=
  ⟨leads.sent.trans sent, grows.trans leads.grows, leads.stands⟩

/-- A call that ends. -/
lemma finish_done (client : MCPClient) (id : Nat) (s : ClientState) (now : Time) (task : Task)
    (result : Except McpError Json) : (∃ r, (client.finish id s now task result).2 = .done r) ∧
      (client.finish id s now task result).1.sent = s.sent ∧
      (client.finish id s now task result).1.session = s.session := by
  unfold MCPClient.finish
  split
  · exact ⟨⟨_, rfl⟩, rfl, rfl⟩
  · dsimp only
    split
    · exact ⟨⟨_, rfl⟩, rfl, rfl⟩
    · exact ⟨⟨_, rfl⟩, rfl, rfl⟩
    · split
      · split <;> exact ⟨⟨_, rfl⟩, rfl, rfl⟩
      · exact ⟨⟨_, rfl⟩, rfl, rfl⟩
  · split <;> exact ⟨⟨_, rfl⟩, rfl, rfl⟩

lemma finish_leads (result : Except McpError Json) (sent : SentAtMost expired own) :
    Leads s expired own (client.finish id s now task result) := by
  obtain ⟨⟨r, done⟩, same, session⟩ := finish_done client id s now task result
  refine ⟨same, by rw [session], ?_⟩
  rw [done]
  exact sent

lemma request_requests {requestId : Nat} {params : JsonObject} (request : task ≠ .initializeSession) :
    task.Requests (client.postOf s (requestEnvelope requestId task.method params) false) := by
  cases task with
  | initializeSession => exact absurd rfl request
  | listTools | callTool => exact ⟨rfl, rfl⟩

/-- The session is there and the request has not been sent. -/
lemma proceed_ensure (task : Task) (none : own = []) :
    Leads s expired own (client.proceed id s now task .ensure) := by
  have sends (request : task ≠ .initializeSession) :
      Leads s expired own (client.sendForSession s task (.sending s.session.generation) task.method task.params
        false) :=
    ⟨rfl, Nat.le_refl _, nofun, Nat.le_refl _, rfl, request_requests request, none⟩
  cases task with
  | initializeSession =>
    rw [MCPClient.proceed]
    exact finish_leads _ (.inl none)
  | listTools => exact sends nofun
  | callTool => exact sends nofun

/-- A newer session is there: a tool list is asked for again, a tool is not called again. -/
lemma proceed_recover {observed : Nat} (once : SentOnce own task observed) (gone : expired observed)
    (newer : observed < s.session.generation) (initialized : s.session.state.initialized = true) :
    Leads s expired own (client.proceed id s now task (.recover observed)) := by
  cases task with
  | initializeSession =>
    rw [MCPClient.proceed]
    exact finish_leads _ once.atMost
  | callTool =>
    rw [MCPClient.proceed]
    exact finish_leads _ once.atMost
  | listTools =>
    obtain ⟨t, sent, generation, method, -⟩ := once
    refine ⟨rfl, Nat.le_refl _, nofun, t, ⟨id, client.postOf s
      (requestEnvelope (s.requestId + 1) "tools/list" []) false, false⟩, rfl, ?_, sent⟩
    exact ⟨generation ▸ gone, generation ▸ newer, initialized, method, rfl⟩

lemma proceed_leads {why : Purpose} (sent : SentFor expired own task why)
    (newer : Newer s.session.generation why) (initialized : s.session.state.initialized = true) :
    Leads s expired own (client.proceed id s now task why) := by
  cases why with
  | ensure => exact proceed_ensure task sent
  | recover => exact proceed_recover sent.1 sent.2 newer initialized

lemma enterSession_leads {why : Purpose} (sent : SentFor expired own task why)
    (old : NotOlder s.session.generation why) :
    Leads s expired own (client.enterSession id s now task why) := by
  unfold MCPClient.enterSession
  split
  · next serves =>
    refine (proceed_leads sent ?_ ?_).before rfl (Nat.le_refl _)
    · cases why with
      | ensure => trivial
      | recover observed =>
        have other := (Bool.and_eq_true_iff.mp serves).2
        exact lt_of_le_of_ne old (Ne.symm (by simpa using other))
    · cases why with
      | ensure => exact serves
      | recover => exact (Bool.and_eq_true_iff.mp serves).1
  · refine ⟨rfl, MCPSessionManager.le_prepare _ _, nofun, sent, ?_, rfl⟩
    cases why with
    | ensure => trivial
    | recover observed => exact Nat.lt_succ_of_le old

lemma acquireSession_leads {why : Purpose} (sent : SentFor expired own task why)
    (old : NotOlder s.session.generation why) :
    Leads s expired own (client.acquireSession id s now task why) := by
  unfold MCPClient.acquireSession
  dsimp only
  split
  · exact Leads.before (s := { s with session := s.session.join id }) (enterSession_leads sent old) rfl
      (Nat.le_refl _)
  · exact ⟨rfl, Nat.le_refl _, sent, old⟩

lemma rpc_leads (none : own = []) : Leads s expired own (client.rpc id s now task) := by
  unfold MCPClient.rpc
  split
  · unfold MCPClient.ensureInitialized
    split
    · exact proceed_ensure task none
    · exact acquireSession_leads none trivial
  · exact proceed_ensure task none

lemma failHandshake_leads (error : McpError) (sent : SentAtMost expired own) :
    Leads s expired own (client.failHandshake id s now task error) :=
  (finish_leads _ sent).before rfl (MCPSessionManager.le_failed _ _)

/-- A handshake goes on or ends. -/
lemma settle_handshake {why : Purpose} {stage : Stage}
    (handshake : stage = .initializing why ∨ stage = .notifying why)
    (result : Except McpError (Json × Headers)) (sent : SentFor expired own task why)
    (newer : Newer s.session.generation why) :
    Leads s expired own (client.settle id s now task stage result) := by
  obtain rfl | rfl := handshake
  · rw [MCPClient.settle]
    split
    · next session received =>
      cases result with
      | error => cases received
      | ok answer =>
        obtain ⟨-, generation, -⟩ := MCPSessionManager.received_lock received
        have still : Newer session.generation why := by rwa [generation]
        exact ⟨rfl, generation.ge, nofun, sent, still, rfl⟩
    · exact failHandshake_leads _ sent.atMost
  · unfold MCPClient.settle
    dsimp only
    split
    · refine Leads.before (proceed_leads sent ?_ rfl) rfl (Nat.le_succ _)
      cases why with
      | ensure => trivial
      | recover observed => exact Nat.lt_succ_of_lt newer
    · exact failHandshake_leads _ sent.atMost

/-- An error with this status says that the session of the client is gone. -/
def SaysExpired (client : MCPClient) (s : ClientState) (statusCode : Nat) : Prop :=
  client.settings.mcpSessionEnabled = true ∧ s.session.state.sessionId ≠ none ∧
    (statusCode = 404 ∨ statusCode = 410)

/-- The exchange of the request ends: the call is over, or it recovers an expired session. -/
lemma settle_sending {observed : Nat} (result : Except McpError (Json × Headers))
    (once : SentOnce own task observed) (old : observed ≤ s.session.generation)
    (gone : ∀ code message, result = .error (.httpStatus code message) → SaysExpired client s code →
      expired observed) :
    Leads s expired own (client.settle id s now task (.sending observed) result) := by
  unfold MCPClient.settle
  dsimp only
  split
  · next code message =>
    split
    · next verdict =>
      simp only [Bool.and_eq_true, Bool.or_eq_true, decide_eq_true_eq] at verdict
      obtain ⟨⟨enabled, session⟩, status⟩ := verdict
      have seen := gone code message rfl ⟨enabled, Option.isSome_iff_ne_none.mp session, status⟩
      exact Leads.before (s := MCPClient.invalidate s) (acquireSession_leads ⟨once, seen⟩ old) rfl
        (Nat.le_refl _)
    · exact finish_leads _ once.atMost
  · exact finish_leads _ once.atMost

/-- The exchange ends before its request was handed over. -/
lemma settle_unsent {stage : Stage} {error : McpError}
    (request : (∃ observed, stage = .sending observed) ∨ stage = .resending)
    (other : ∀ code message, error ≠ .httpStatus code message) (sent : SentAtMost expired own) :
    Leads s expired own (client.settle id s now task stage (.error error)) := by
  obtain ⟨observed, rfl⟩ | rfl := request
  · unfold MCPClient.settle
    dsimp only
    split
    · next same =>
      cases same
      exact absurd rfl (other _ _)
    · exact finish_leads _ sent
  · exact finish_leads _ sent

lemma settle_resending (result : Except McpError (Json × Headers)) (sent : SentAtMost expired own) :
    Leads s expired own (client.settle id s now task .resending result) :=
  finish_leads _ sent

/-- The exchange ends after its request was handed over. -/
lemma settle_leads {stage : Stage} {request : Post} (result : Except McpError (Json × Headers))
    (stands : StandingIn expired own s.session.generation task request true stage)
    (gone : ∀ observed code message, stage = .sending observed →
      result = .error (.httpStatus code message) → SaysExpired client s code → expired observed) :
    Leads s expired own (client.settle id s now task stage result) := by
  cases stage with
  | initializing why => exact settle_handshake (.inl rfl) result stands.1 stands.2.1
  | notifying why => exact settle_handshake (.inr rfl) result stands.1 stands.2.1
  | sending observed =>
    obtain ⟨old, generation, requests, t, sent, post⟩ := stands
    exact settle_sending result ⟨t, sent, by rw [post, generation], post ▸ requests⟩ old
      fun code message => gone observed code message rfl
  | resending =>
    obtain ⟨first, second, -, resent, sent⟩ := stands
    exact settle_resending result (.inr (.inr ⟨first, second, sent, resent⟩))

lemma readMessages_same (client : MCPClient) (s : ClientState) (messages : List JsonObject) :
    (client.readMessages s messages).1.sent = s.sent ∧
      (client.readMessages s messages).1.session = s.session := by
  induction messages generalizing s with
  | nil => exact ⟨rfl, rfl⟩
  | cons message messages ih =>
    rw [MCPClient.readMessages]
    have noted : ∀ notified : Bool, (if notified then MCPClient.invalidate s else s).sent = s.sent ∧
        (if notified then MCPClient.invalidate s else s).session = s.session := by
      rintro (_ | _) <;> exact ⟨rfl, rfl⟩
    split
    · exact noted _
    · exact ⟨(ih _).1.trans (noted _).1, (ih _).2.trans (noted _).2⟩

lemma replyTo_reply {message payload : JsonObject} (reply : client.replyTo message = some payload) :
    isRequest payload = false := by
  unfold MCPClient.replyTo at reply
  split at reply
  · dsimp only at reply
    split at reply
    all_goals first
      | cases reply
        split <;> rfl
      | cases reply
  · cases reply

lemma readMessages_reply {s : ClientState} {messages rest : List JsonObject} {payload : JsonObject}
    (reply : (client.readMessages s messages).2 = some (payload, rest)) :
    isRequest payload = false := by
  induction messages generalizing s with
  | nil => cases reply
  | cons message messages ih =>
    rw [MCPClient.readMessages] at reply
    split at reply
    · next found =>
      cases reply
      exact replyTo_reply found
    · exact ih reply

/-- What is wrong with the messages of an answer is their fault. -/
lemma resultOf_error {exchange : Exchange} {reading : Reading} {error : McpError}
    (failed : client.resultOf exchange reading = .error error) : error.OfAnswer := by
  rw [MCPClient.resultOf] at failed
  cases selected : selectResponse client.pyRepr (reading.messages.map .obj) (exchange.requestId.getD 0) with
  | error error' =>
    rw [selected] at failed
    cases failed
    exact selectFrom_error selected
  | ok response =>
    rw [selected] at failed
    cases reported : response.error with
    | none =>
      simp only [bind, Except.bind, reported] at failed
      cases failed
    | some error' =>
      simp only [bind, Except.bind, reported] at failed
      cases failed
      trivial

/-- The answer is read on: a request of the server is replied to, or the exchange ends. -/
lemma read_leads {stage : Stage} {exchange : Exchange} {reading : Reading}
    (stands : StandingIn expired own s.session.generation task exchange.request true stage) :
    Leads s expired own (client.read id s now task stage exchange reading) := by
  obtain ⟨sent, session⟩ := readMessages_same client s reading.remaining
  unfold MCPClient.read
  split
  · next s' payload remaining found =>
    rw [found] at sent session
    have reply : isRequest payload = false :=
      @readMessages_reply client s _ remaining payload (congrArg Prod.snd found)
    refine ⟨sent, by rw [← session], ?_, ?_⟩
    · rintro _ ⟨⟩
      exact reply
    · rw [← session] at stands
      exact stands
  · next s' found =>
    rw [found] at sent session
    rw [← session] at stands
    refine Leads.before (settle_leads _ stands fun _ code message _ error => ?_) sent (by rw [← session])
    exact (resultOf_error error).elim

/-- An exchange fails with what the server answers, or with the status that it answers. -/
lemma decodePost_error {allowEmpty : Bool} {outcome : HttpOutcome} {error : McpError}
    (failed : client.decodePost allowEmpty outcome = .error error) :
    error.OfAnswer ∨ ∃ code message headers text statusText, error = .httpStatus code message ∧
      outcome = .response code headers text statusText := by
  unfold MCPClient.decodePost at failed
  split at failed
  · split at failed
    · cases failed
      exact .inr ⟨_, _, _, _, _, rfl, rfl⟩
    · refine .inl ?_
      split at failed
      · cases failed
      · split at failed
        · cases failed
          trivial
        · next statusCode headers text _ _ _ _ =>
          cases decoded : decodeJsonMessages client.limits client.floats text
              ((headers.lookup "content-type").getD "") with
          | error error =>
            rw [decoded] at failed
            cases failed
            exact (decodeJsonMessages_error decoded).ofAnswer
          | ok messages =>
            rw [decoded] at failed
            cases failed
  · cases failed
    exact .inl trivial
  · cases failed
    exact .inl trivial
  · cases failed
    exact .inl trivial

/-- A status comes from the server. -/
lemma decodePost_status {allowEmpty : Bool} {outcome : HttpOutcome} {code : Nat} {message : String}
    (status : client.decodePost allowEmpty outcome = .error (.httpStatus code message)) :
    ∃ headers text statusText, outcome = .response code headers text statusText := by
  obtain own | ⟨_, _, headers, text, statusText, same, response⟩ := decodePost_error status
  · exact own.elim
  · cases same
    exact ⟨headers, text, statusText, response⟩

lemma answered_leads {stage : Stage} {exchange : Exchange} (outcome : HttpOutcome)
    (stands : StandingIn expired own s.session.generation task exchange.request true stage)
    (gone : ∀ observed code headers text statusText, stage = .sending observed →
      outcome = .response code headers text statusText → SaysExpired client s code →
        expired observed) :
    Leads s expired own (client.answered id s now task stage exchange outcome) := by
  unfold MCPClient.answered
  split
  · next error found =>
    refine settle_leads _ stands fun observed code message sends same => ?_
    cases same
    obtain ⟨headers, text, statusText, response⟩ := decodePost_status found
    exact gone observed code headers text statusText sends response
  · split
    · exact read_leads stands
    · exact settle_leads _ stands nofun
    · split
      · exact settle_leads _ stands nofun
      · exact read_leads stands

/-- The exchange ends with an error that is no HTTP status. -/
lemma settle_error {stage : Stage} {request : Post} {handed : Bool} {error : McpError}
    (stands : StandingIn expired own s.session.generation task request handed stage)
    (other : ∀ code message, error ≠ .httpStatus code message) :
    Leads s expired own (client.settle id s now task stage (.error error)) := by
  cases stage with
  | initializing why => exact settle_handshake (.inl rfl) _ stands.1 stands.2.1
  | notifying why => exact settle_handshake (.inr rfl) _ stands.1 stands.2.1
  | sending observed =>
    refine settle_unsent (.inl ⟨observed, rfl⟩) other ?_
    obtain ⟨-, -, -, sent⟩ := stands
    split at sent
    · obtain ⟨t, sent, -⟩ := sent
      exact .inr (.inl ⟨t, sent⟩)
    · exact .inl sent
  | resending =>
    refine settle_unsent (.inr rfl) other ?_
    obtain ⟨first, second, -, resent, sent⟩ := stands
    split at sent
    · exact .inr (.inr ⟨first, second, sent, resent⟩)
    · exact .inr (.inl ⟨first, sent⟩)

lemma enterTools_leads {forceRefresh allowStale : Bool} (none : own = []) :
    Leads s expired own (client.enterTools id s now forceRefresh allowStale) := by
  unfold MCPClient.enterTools
  split
  · exact ⟨rfl, Nat.le_refl _, .inl none⟩
  · exact rpc_leads none

lemma begin_leads {operation : Operation} (none : own = []) :
    Leads s expired own (client.begin id s now operation) := by
  have concluded (result : Except McpError ClientResult) : Leads s expired own (s, .done result) :=
    ⟨rfl, Nat.le_refl _, .inl none⟩
  cases operation with
  | start =>
    rw [MCPClient.begin]
    split
    · exact rpc_leads none
    · exact concluded _
  | initializeSession => exact rpc_leads none
  | listTools forceRefresh allowStale =>
    show Leads s expired own (client.listTools id s now forceRefresh allowStale)
    unfold MCPClient.listTools
    split
    · exact concluded _
    · dsimp only
      split
      · exact Leads.before (s := { s with toolsLock := s.toolsLock.join id }) (enterTools_leads none) rfl
          (Nat.le_refl _)
      · exact ⟨rfl, Nat.le_refl _, none⟩
  | callTool name arguments =>
    show Leads s expired own (client.callTool id s now name arguments)
    unfold MCPClient.callTool
    split
    · split
      · exact concluded _
      · split
        · exact rpc_leads none
        · exact rpc_leads none
        · exact concluded _
    · exact concluded _
  | invalidateToolsCache => exact ⟨rfl, Nat.le_refl _, .inl none⟩
  | aclose => exact ⟨rfl, Nat.le_refl _, none⟩

lemma close_leads {deleted : Bool} {outcome : HttpOutcome} (none : own = []) :
    Leads s expired own (MCPClient.close s deleted outcome) := by
  unfold MCPClient.close
  split
  · exact ⟨rfl, Nat.le_refl _, .inl none⟩
  · split
    · exact ⟨rfl, Nat.le_succ _, .inl none⟩
    · exact ⟨rfl, Nat.le_refl _, none⟩

end Helpers

section Steps

variable {client : MCPClient} {id : Nat} {s : ClientState} {now : Time} {task : Task} {stage : Stage}
  {exchange : Exchange}

lemma requestsOf_handOver (j : Nat) (post : Post) (redirected : Bool) :
    requestsOf j (MCPClient.handOver id s post redirected).sent = requestsOf j s.sent ++
      if (id = j && !redirected && isRequest post.payload) = true then [⟨id, post, redirected⟩]
      else [] := by
  rw [requestsOf, MCPClient.handOver, List.filter_append, List.filter_singleton, Bool.cond_eq_ite]
  rfl

/-- A message is handed over: the request of the call, or a message that is no request. -/
lemma handOver_stands (stands : Standing expired (requestsOf id s.sent) s.session.generation
      (.exchanging task stage exchange .queued)) :
    Standing expired (requestsOf id (MCPClient.handOver id s exchange.post false).sent) s.session.generation
      (.exchanging task stage exchange (.inFlight true)) := by
  obtain ⟨replies, stands⟩ := stands
  refine ⟨replies, ?_⟩
  rw [requestsOf_handOver]
  cases reply : exchange.reply with
  | some found =>
    -- a reply to the server is no request
    have other : isRequest exchange.post.payload = false := by
      rw [Exchange.post, reply]
      exact replies found reply
    have handed (delivery : Delivery) : exchange.handed delivery = true := by
      rw [Exchange.handed, reply]
      rfl
    rw [other, Bool.and_false, if_neg Bool.false_ne_true, List.append_nil]
    rw [handed] at stands ⊢
    exact stands
  | none =>
    -- the request of the call itself, at each stage
    have own : exchange.post = exchange.request := by rw [Exchange.post, reply]
    have before : exchange.handed .queued = false := by
      rw [Exchange.handed, reply]
      rfl
    have after : exchange.handed (.inFlight true) = true := by
      rw [Exchange.handed, reply]
      rfl
    rw [before] at stands
    rw [after, own]
    cases stage with
    | initializing why | notifying why =>
      obtain ⟨sent, newer, other⟩ := stands
      rw [other, Bool.and_false, if_neg Bool.false_ne_true, List.append_nil]
      exact ⟨sent, newer, other⟩
    | sending observed =>
      obtain ⟨old, generation, requests, none⟩ := stands
      refine ⟨old, generation, requests, ⟨id, exchange.request, false⟩, ?_, rfl⟩
      rw [if_neg Bool.false_ne_true] at none
      rw [none, requests.2]
      simp
    | resending =>
      obtain ⟨first, second, post, resent, sent⟩ := stands
      have request : isRequest exchange.request.payload = true := by
        rw [isRequest, ← post, resent.list', Bool.true_or]
      refine ⟨first, ⟨id, exchange.request, false⟩, rfl, ?_, ?_⟩
      · rw [← post]
        exact ⟨resent.expired, resent.newer, resent.initialized, resent.list, resent.list'⟩
      · rw [if_neg Bool.false_ne_true] at sent
        rw [sent, request]
        simp

/-- What a call adds to the log when it goes on: nothing, the message that it hands over, or a message that
    the HTTP client sends again for a redirect. -/
inductive Sends (client : MCPClient) (id : Nat) (s : ClientState) :
    Phase → ClientInput → List Transmission → Prop where
  | nothing {phase input} :
    Sends client id s phase input s.sent
  | handed {task : Task} {stage : Stage} {exchange : Exchange} :
    Sends client id s (.exchanging task stage exchange .queued) (.opened none)
      (s.sent ++ [⟨id, exchange.post, false⟩])
  | redirected {task : Task} {stage : Stage} {exchange : Exchange} {statusCode : Nat} :
    client.settings.mcpFollowRedirects = true →
    statusCode = 307 ∨ statusCode = 308 →
    Sends client id s (.exchanging task stage exchange (.inFlight true)) (.redirected statusCode)
      (s.sent ++ [⟨id, exchange.post, true⟩])

lemma Sends.others {phase : Phase} {input : ClientInput} {sent : List Transmission}
    (sends : Sends client id s phase input sent) {j : Nat} (ne : j ≠ id) :
    requestsOf j sent = requestsOf j s.sent := by
  cases sends with
  | nothing => rfl
  | handed | redirected => simp [requestsOf, Ne.symm ne]

/-- What one call does when it goes on. -/
structure Goes (client : MCPClient) (id : Nat) (s : ClientState) (expired : Nat → Prop) (phase : Phase)
    (input : ClientInput) (result : ClientState × Phase) : Prop where
  stands : Standing expired (requestsOf id result.1.sent) result.1.session.generation result.2
  grows : s.session.generation ≤ result.1.session.generation
  sends : Sends client id s phase input result.1.sent

lemma Leads.goes {phase : Phase} {input : ClientInput} {result : ClientState × Phase}
    (leads : Leads s expired (requestsOf id s.sent) result) :
    Goes client id s expired phase input result := by
  refine ⟨?_, leads.grows, ?_⟩
  · rw [leads.sent]
    exact leads.stands
  · rw [leads.sent]
    exact .nothing

lemma handed_inFlight (exchange : Exchange) (withBody : Bool) :
    exchange.handed (.inFlight withBody) = true := by
  rw [Exchange.handed, decide_eq_true nofun, Bool.or_true]

/-- A message that is sent again for a redirect is not handed over again. -/
lemma redirect_goes {withBody : Bool} {statusCode : Nat}
    (follow : client.settings.mcpFollowRedirects = true)
    (stands : Standing expired (requestsOf id s.sent) s.session.generation
      (.exchanging task stage exchange (.inFlight withBody))) :
    Goes client id s expired (.exchanging task stage exchange (.inFlight withBody))
      (.redirected statusCode) (MCPClient.redirect id s task stage exchange withBody statusCode) := by
  obtain ⟨replies, stands⟩ := stands
  have stays (body : Bool) : Standing expired (requestsOf id s.sent) s.session.generation
      (.exchanging task stage exchange (.inFlight body)) := by
    refine ⟨replies, ?_⟩
    rw [handed_inFlight] at stands ⊢
    exact stands
  unfold MCPClient.redirect
  dsimp only
  split
  · next kept =>
    obtain ⟨body, code⟩ := Bool.and_eq_true_iff.mp kept
    refine ⟨?_, Nat.le_refl _, ?_⟩
    · rw [requestsOf_handOver, Bool.not_true, Bool.and_false, Bool.false_and,
        if_neg Bool.false_ne_true, List.append_nil]
      exact stays _
    · rw [body]
      exact .redirected follow (by simpa using code)
  · exact ⟨stays _, Nat.le_refl _, .nothing⟩

/-- A call that goes on stays where its requests allow it to stand, hands over no more than the message that
    it has, and takes no generation back. -/
theorem advance_goes {phase : Phase} {input : ClientInput} {result : ClientState × Phase}
    (stands : Standing expired (requestsOf id s.sent) s.session.generation phase)
    (gone : ∀ observed task exchange delivery code headers text statusText,
      phase = .exchanging task (.sending observed) exchange delivery →
      input = .answered (.response code headers text statusText) → SaysExpired client s code →
        expired observed)
    (advanced : client.advance id s now phase input = some result) :
    Goes client id s expired phase input result := by
  unfold MCPClient.advance at advanced
  split at advanced
  · cases advanced
    exact (begin_leads stands).goes
  -- a call that waits for the lock of the tool list
  · split at advanced
    · cases advanced
      exact (enterTools_leads stands).goes
    · cases advanced
  · cases advanced
    exact Leads.goes ⟨rfl, Nat.le_refl _, .inl stands⟩
  -- a call that waits for the lock of the session
  · split at advanced
    · cases advanced
      exact (enterSession_leads stands.1 stands.2).goes
    · cases advanced
  · cases advanced
    refine Leads.goes ?_
    exact Leads.before (finish_leads _ stands.1.atMost) rfl (Nat.le_refl _)
  -- a message is handed over, refused by the meter, redirected, answered or given up
  · cases advanced
    exact ⟨handOver_stands stands, Nat.le_refl _, .handed⟩
  · cases advanced
    refine Leads.goes ?_
    exact settle_error stands.2 nofun
  · split at advanced
    · next follow =>
      cases advanced
      exact redirect_goes (Bool.and_eq_true_iff.mp follow).1 stands
    · cases advanced
  · cases advanced
    refine (answered_leads _ ?_ fun observed code headers text statusText sends response =>
      gone observed _ _ _ code headers text statusText (by rw [sends]) (by rw [response])).goes
    rw [← handed_inFlight]
    exact stands.2
  · cases advanced
    refine Leads.goes ?_
    exact settle_error stands.2 nofun
  -- the client is closed
  · cases advanced
    exact (close_leads stands).goes
  · cases advanced
    exact Leads.goes ⟨rfl, Nat.le_refl _, .inl stands⟩
  · cases advanced

end Steps

section Monotone

variable {expired expired' : Nat → Prop} {own : List Transmission} {generation generation' : Nat}

lemma SentFor.mono {task : Task} {why : Purpose} (seen : ∀ o, expired o → expired' o)
    (sent : SentFor expired own task why) : SentFor expired' own task why := by
  cases why with
  | ensure => exact sent
  | recover observed => exact ⟨sent.1, seen _ sent.2⟩

lemma Resent.mono {first second : Transmission} (seen : ∀ o, expired o → expired' o)
    (resent : Resent expired first second) : Resent expired' first second :=
  ⟨seen _ resent.expired, resent.newer, resent.initialized, resent.list, resent.list'⟩

/-- What was seen stays seen, and newer generations are newer still. -/
lemma Standing.mono {phase : Phase} (seen : ∀ o, expired o → expired' o)
    (grows : generation ≤ generation') (stands : Standing expired own generation phase) :
    Standing expired' own generation' phase := by
  have newer {why : Purpose} (newer : Newer generation why) : Newer generation' why := by
    cases why with
    | ensure => trivial
    | recover => exact Nat.lt_of_lt_of_le newer grows
  cases phase with
  | idle | waitingTools | closing => exact stands
  | waitingSession task why =>
    refine ⟨stands.1.mono seen, ?_⟩
    cases why with
    | ensure => trivial
    | recover => exact Nat.le_trans stands.2 grows
  | exchanging task stage exchange delivery =>
    obtain ⟨replies, stands⟩ := stands
    refine ⟨replies, ?_⟩
    cases stage with
    | initializing why | notifying why => exact ⟨stands.1.mono seen, newer stands.2.1, stands.2.2⟩
    | sending observed => exact ⟨Nat.le_trans stands.1 grows, stands.2⟩
    | resending =>
      obtain ⟨first, second, post, resent, sent⟩ := stands
      exact ⟨first, second, post, resent.mono seen, sent⟩
  | done =>
    obtain none | one | ⟨first, second, sent, resent⟩ := stands
    · exact .inl none
    · exact .inr (.inl one)
    · exact .inr (.inr ⟨first, second, sent, resent.mono seen⟩)

end Monotone

namespace Traffic

variable {client : MCPClient}

/-- A step is what its call does; the other calls stay where they are. -/
lemma Step.advanced {s s' : Traffic} {go : Resumption} (st : Step client s go s') :
    client.advance go.id s.client go.now (s.phases go.id) go.input =
        some (s'.client, s'.phases go.id) ∧
      ∀ id, id ≠ go.id → s'.phases id = s.phases id := by
  have taken : s.take client go = some s' := st
  unfold take at taken
  split at taken
  · obtain ⟨result, advanced, rfl⟩ := Option.map_eq_some_iff.mp taken
    refine ⟨?_, fun id ne => Function.update_of_ne ne _ _⟩
    simp only [Function.update_self]
    exact advanced
  · cases taken

/-- The server answers the request of the call, which was sent at this generation, with a status that says
    that its session is gone. -/
def SeesExpiry (client : MCPClient) (id observed : Nat) (e : Event Traffic Resumption) : Prop :=
  e.label.id = id ∧ ∃ task exchange delivery code headers text statusText,
    e.pre.phases id = .exchanging task (.sending observed) exchange delivery ∧
      e.label.input = .answered (.response code headers text statusText) ∧
      SaysExpired client e.pre.client code

/-- Every call stands where the requests that it has handed over, and the expiries that it has seen, allow
    it to stand. -/
def Inv (client : MCPClient) (past : List (Event Traffic Resumption)) (s : Traffic) : Prop :=
  ∀ id, Standing (fun observed => ∃ e ∈ past, SeesExpiry client id observed e)
    (requestsOf id s.client.sent) s.client.session.generation (s.phases id)

lemma Inv.start (clock : Time) : Inv client [] (start client clock) := fun _ => rfl

lemma Inv.step {past : List (Event Traffic Resumption)} {e : Event Traffic Resumption}
    (st : Step client e.pre e.label e.post) (inv : Inv client past e.pre) :
    Inv client (past ++ [e]) e.post := by
  obtain ⟨advanced, others⟩ := st.advanced
  have seen (id : Nat) : ∀ observed, (∃ e ∈ past, SeesExpiry client id observed e) →
      ∃ e' ∈ past ++ [e], SeesExpiry client id observed e' :=
    fun _ ⟨e', mem, sees⟩ => ⟨e', List.mem_append_left _ mem, sees⟩
  obtain ⟨stands, grows, sends⟩ := advance_goes ((inv e.label.id).mono (seen _) (Nat.le_refl _))
    (fun observed task exchange delivery code headers text statusText phase input verdict =>
      ⟨e, List.mem_append_right _ (.head _), rfl, task, exchange, delivery, code, headers, text,
        statusText, phase, input, verdict⟩) advanced
  intro id
  by_cases own : id = e.label.id
  · exact own ▸ stands
  · rw [others id own, sends.others own]
    exact (inv id).mono (seen id) grows

/-- The invariant holds in every run. -/
theorem Inv.run {clock : Time} {es : List (Event Traffic Resumption)} {s : Traffic}
    (run : Run (Step client) (Traffic.start client clock) es s) : Inv client es s :=
  run.invariant_history (fun _ _ st inv => inv.step st) (.start clock)

end Traffic

end AgentRuntime.Mcp
