import AgentRuntime.Mcp.Replay

/-!
# Recovery of an expired session

A refresh of the tool list whose request is answered with 404 or 410 recovers the session and sends the
request again, if the client has a session when the answer comes. Another call that is just replacing the
expired session has already reset it; then the answer is taken for an ordinary error.
-/

namespace AgentRuntime.Mcp
open State Transition

/-- A refresh of the tool list recovers its session, or sends its request again behind that. -/
def Recovers : Phase → Prop
  | .waitingSession (.listTools ..) (.recover _) => True
  | .exchanging (.listTools ..) (.initializing (.recover _)) _ _ => True
  | .exchanging (.listTools ..) (.notifying (.recover _)) _ _ => True
  | .exchanging _ .resending _ _ => True
  | _ => False

/-- The second request has not been handed over yet. -/
def Unsent : Phase → Prop
  | .exchanging _ .resending exchange delivery => exchange.handed delivery = false
  | _ => True

/-- The handshake of the call itself is under way. -/
def Handshakes : Phase → Prop
  | .exchanging _ (.initializing _) _ _ => True
  | .exchanging _ (.notifying _) _ _ => True
  | _ => False

/-- The session is given up. -/
def Resets (session session' : MCPSessionManager) : Prop :=
  session.generation < session'.generation ∧ session'.state.initialized = false

/-- A new session is initialized. -/
def Reinitializes (session session' : MCPSessionManager) : Prop :=
  session.generation < session'.generation ∧ session'.state.initialized = true

/-- The call is cancelled, or the meter refuses its message. -/
def Interrupts : ClientInput → Prop
  | .cancelled => True
  | .opened (some _) => True
  | _ => False

/-- The call is interrupted, or the handshake that it makes itself fails. -/
def Disturbs (phase : Phase) (input : ClientInput) (session session' : MCPSessionManager) : Prop :=
  Interrupts input ∨ Handshakes phase ∧ Resets session session'

/-- The recovery goes on without a disturbance, or it is disturbed and the call ends, and sends nothing. -/
def Continues (s : ClientState) (phase : Phase) (input : ClientInput) (result : ClientState × Phase) : Prop :=
  ¬ Disturbs phase input s.session result.1.session ∧ Recovers result.2 ∨
    Disturbs phase input s.session result.1.session ∧ (∃ r, result.2 = .done r) ∧ result.1.sent = s.sent

section Helpers

variable {client : MCPClient} {id : Nat} {s : ClientState} {now : Time} {allowStale : Bool}
  {start : Time} {oldCache : Option (List JsonObject)} {oldCachedAt : Time} {observed : Nat}

lemma enterSession_recovers {phase : Phase} (entered : phase = (client.enterSession id s now
    (.listTools allowStale start oldCache oldCachedAt) (.recover observed)).2) :
    Recovers phase ∧ Unsent phase := by
  subst entered
  unfold MCPClient.enterSession
  split
  · exact ⟨trivial, rfl⟩
  · exact ⟨trivial, trivial⟩

lemma acquireSession_recovers {phase : Phase} (acquired : phase = (client.acquireSession id s now
    (.listTools allowStale start oldCache oldCachedAt) (.recover observed)).2) :
    Recovers phase ∧ Unsent phase := by
  subst acquired
  unfold MCPClient.acquireSession
  dsimp only
  split
  · exact enterSession_recovers rfl
  · exact ⟨trivial, trivial⟩

/-- Only the task and the stage of an exchange tell whether it belongs to a recovery. -/
lemma Recovers.exchange {task : Task} {stage : Stage} {exchange : Exchange} {delivery : Delivery}
    (recovers : Recovers (.exchanging task stage exchange delivery)) (exchange' : Exchange)
    (delivery' : Delivery) : Recovers (.exchanging task stage exchange' delivery') := by
  cases stage with
  | resending => cases task <;> trivial
  | sending => cases task <;> exact recovers
  | initializing why | notifying why =>
    cases task with
    | initializeSession | callTool => exact recovers
    | listTools => cases why <;> exact recovers

/-- What the answer to a handshake makes of a recovery: it goes on in the session as it is, or a new one, or
    the session is given up and the call ends. -/
def Concludes (s : ClientState) (result : ClientState × Phase) : Prop :=
  ¬ Resets s.session result.1.session ∧ Recovers result.2 ∨
    Resets s.session result.1.session ∧ (∃ r, result.2 = .done r) ∧ result.1.sent = s.sent

lemma Concludes.before {s0 : ClientState} {result : ClientState × Phase} (concludes : Concludes s result)
    (sent : s.sent = s0.sent) (session : s.session = s0.session) : Concludes s0 result := by
  rwa [Concludes, session, sent] at concludes

lemma not_resets_refl (session : MCPSessionManager) : ¬ Resets session session :=
  fun resets => absurd resets.1 (Nat.lt_irrefl _)

lemma McpError.OfAnswer.ne_cancelled {error : McpError} (own : error.OfAnswer) : error ≠ .cancelled := by
  rintro rfl
  exact own

lemma initializeReceived_error {pyRepr : Json → String} {session : MCPSessionManager} {result : Json}
    {headers : Headers} {error : McpError}
    (failed : session.initializeReceived pyRepr result headers = .error error) : error.OfAnswer := by
  unfold MCPSessionManager.initializeReceived at failed
  split at failed
  · split at failed
    · split at failed
      · cases failed
        trivial
      · split at failed
        · cases failed
          trivial
        · cases failed
    · cases failed
      trivial
  · cases failed
    trivial

/-- A handshake that fails, unless it is cancelled, gives the session up. -/
lemma failHandshake_concludes {task : Task} {error : McpError} (caught : error ≠ .cancelled) :
    Concludes s (client.failHandshake id s now task error) := by
  obtain ⟨done, sent, session⟩ := finish_done client id
    { s with session := (s.session.failed error).leave id } now task (.error error)
  refine .inr ⟨?_, done, sent⟩
  rw [MCPClient.failHandshake, session]
  have reset : s.session.failed error = s.session.reset := by
    cases error with
    | cancelled => exact absurd rfl caught
    | _ => rfl
  rw [reset]
  exact ⟨Nat.lt_succ_self _, rfl⟩

lemma settle_concludes {stage : Stage} (handshake : stage = .initializing (.recover observed) ∨
      stage = .notifying (.recover observed)) {result : Except McpError (Json × Headers)}
    (caught : ∀ error, result = .error error → error ≠ .cancelled) :
    Concludes s (client.settle id s now (.listTools allowStale start oldCache oldCachedAt) stage result) := by
  obtain rfl | rfl := handshake
  · rw [MCPClient.settle]
    split
    · next session received =>
      cases result with
      | error => cases received
      | ok answer =>
        obtain ⟨-, generation, -⟩ := MCPSessionManager.received_lock received
        exact .inl ⟨fun resets => absurd resets.1 (Nat.not_lt.mpr generation.le), trivial⟩
    · next error failed =>
      refine failHandshake_concludes ?_
      cases result with
      | error error' =>
        cases failed
        exact caught _ rfl
      | ok answer => exact (initializeReceived_error failed).ne_cancelled
  · unfold MCPClient.settle
    dsimp only
    split
    · exact .inl ⟨fun resets => Bool.noConfusion resets.2, trivial⟩
    · exact failHandshake_concludes (caught _ rfl)

lemma read_concludes {stage : Stage} (handshake : stage = .initializing (.recover observed) ∨
      stage = .notifying (.recover observed)) {exchange : Exchange} {reading : Reading} :
    Concludes s (client.read id s now (.listTools allowStale start oldCache oldCachedAt) stage exchange
      reading) := by
  obtain ⟨sent, session⟩ := readMessages_same client s reading.remaining
  unfold MCPClient.read
  split
  · next s' payload remaining found =>
    rw [found] at session
    refine .inl ⟨?_, ?_⟩
    · rw [show s'.session = s.session from session]
      exact not_resets_refl _
    · obtain rfl | rfl := handshake <;> trivial
  · next s' found =>
    rw [found] at sent session
    refine (settle_concludes handshake ?_).before sent session
    intro error failed
    exact (resultOf_error failed).ne_cancelled

lemma answered_concludes {stage : Stage} (handshake : stage = .initializing (.recover observed) ∨
      stage = .notifying (.recover observed)) {exchange : Exchange} (outcome : HttpOutcome) :
    Concludes s (client.answered id s now (.listTools allowStale start oldCache oldCachedAt) stage exchange
      outcome) := by
  unfold MCPClient.answered
  split
  · next error failed =>
    refine settle_concludes handshake ?_
    rintro _ ⟨⟩
    obtain own | ⟨code, message, -, -, -, rfl, -⟩ := decodePost_error failed
    · exact own.ne_cancelled
    · intro same
      cases same
  · split
    · exact read_concludes handshake
    · exact settle_concludes handshake fun error failed => by cases failed
    · split
      · refine settle_concludes handshake ?_
        rintro _ ⟨⟩
        exact McpError.OfAnswer.ne_cancelled trivial
      · exact read_concludes handshake

/-- An exchange of a recovery belongs to a handshake, or is the second one of the request. -/
lemma Recovers.stage {task : Task} {stage : Stage} {exchange : Exchange} {delivery : Delivery}
    (recovers : Recovers (.exchanging task stage exchange delivery)) :
    stage = .resending ∨ ∃ allowStale start oldCache oldCachedAt observed,
      task = .listTools allowStale start oldCache oldCachedAt ∧
        (stage = .initializing (.recover observed) ∨ stage = .notifying (.recover observed)) := by
  cases stage with
  | resending => exact .inl rfl
  | sending => cases task <;> exact recovers.elim
  | initializing why =>
    cases task with
    | initializeSession | callTool => exact recovers.elim
    | listTools =>
      cases why with
      | ensure => exact recovers.elim
      | recover => exact .inr ⟨_, _, _, _, _, rfl, .inl rfl⟩
  | notifying why =>
    cases task with
    | initializeSession | callTool => exact recovers.elim
    | listTools =>
      cases why with
      | ensure => exact recovers.elim
      | recover => exact .inr ⟨_, _, _, _, _, rfl, .inr rfl⟩

/-- An exchange that is cancelled, or refused by the meter, ends the call. -/
lemma settle_error_done {task : Task} {stage : Stage} {exchange : Exchange} {delivery : Delivery}
    (recovers : Recovers (.exchanging task stage exchange delivery)) (error : McpError) :
    (∃ r, (client.settle id s now task stage (.error error)).2 = .done r) ∧
      (client.settle id s now task stage (.error error)).1.sent = s.sent := by
  obtain rfl | ⟨_, _, _, _, _, rfl, rfl | rfl⟩ := recovers.stage
  · obtain ⟨done, sent, -⟩ := finish_done client id s now task (.error error)
    exact ⟨done, sent⟩
  · obtain ⟨done, sent, -⟩ := finish_done client id
      { s with session := (s.session.failed error).leave id } now _ (.error error)
    exact ⟨done, sent⟩
  · obtain ⟨done, sent, -⟩ := finish_done client id
      { s with session := (s.session.failed error).leave id } now _ (.error error)
    exact ⟨done, sent⟩

/-- A call that is not interrupted is disturbed only through its handshake. -/
lemma disturbs_iff {phase : Phase} {input : ClientInput} {session session' : MCPSessionManager}
    (kept : ¬ Interrupts input) :
    Disturbs phase input session session' ↔ Handshakes phase ∧ Resets session session' := or_iff_right kept

lemma redirect_session {task : Task} {stage : Stage} {exchange : Exchange} {withBody : Bool}
    {statusCode : Nat} :
    (MCPClient.redirect id s task stage exchange withBody statusCode).1.session = s.session := by
  unfold MCPClient.redirect
  dsimp only
  split
  · rfl
  · rfl

/-- A step of a call that recovers, up to its second request. -/
lemma advance_continues {phase : Phase} {input : ClientInput} {result : ClientState × Phase}
    (recovers : Recovers phase) (unsent : Unsent phase)
    (advanced : client.advance id s now phase input = some result) : Continues s phase input result := by
  cases phase with
  | idle | waitingTools | closing => exact recovers.elim
  | done => cases advanced
  | waitingSession task why =>
    cases input with
    | woken =>
      rw [MCPClient.advance] at advanced
      split at advanced
      · cases advanced
        cases task with
        | initializeSession | callTool => exact recovers.elim
        | listTools =>
          cases why with
          | ensure => exact recovers.elim
          -- it gets the lock, and begins a handshake or sends its second request
          | recover =>
            refine .inl ⟨?_, (enterSession_recovers rfl).1⟩
            rw [disturbs_iff (show ¬ Interrupts .woken from not_false)]
            exact fun disturbed => disturbed.1.elim
      · cases advanced
    | cancelled =>
      cases advanced
      obtain ⟨done, sent, -⟩ := finish_done client id { s with session := s.session.leave id } now task
        (.error .cancelled)
      exact .inr ⟨.inl trivial, done, sent⟩
    | _ => cases advanced
  | exchanging task stage exchange delivery =>
    cases input with
    | cancelled =>
      cases delivery <;>
      · cases advanced
        exact .inr ⟨.inl trivial, settle_error_done recovers .cancelled⟩
    | opened refused =>
      cases delivery with
      | inFlight => cases advanced
      | queued =>
        cases refused with
        | none =>
          cases advanced
          refine .inl ⟨?_, recovers.exchange _ _⟩
          rw [disturbs_iff (show ¬ Interrupts (.opened none) from not_false)]
          exact fun disturbed => not_resets_refl _ disturbed.2
        -- the meter refuses the message, and the call ends with it
        | some message =>
          cases advanced
          exact .inr ⟨.inl trivial, settle_error_done recovers (.budgetExceeded message)⟩
    | redirected statusCode =>
      cases delivery with
      | queued => cases advanced
      | inFlight =>
        rw [MCPClient.advance] at advanced
        split at advanced
        · cases advanced
          refine .inl ⟨?_, recovers.exchange _ _⟩
          rw [disturbs_iff (show ¬ Interrupts (.redirected statusCode) from not_false), redirect_session]
          exact fun disturbed => not_resets_refl _ disturbed.2
        · cases advanced
    | answered outcome =>
      cases delivery with
      | queued => cases advanced
      | inFlight withBody =>
        cases advanced
        -- the answer to a message of the handshake, up to the second request
        obtain rfl | ⟨allowStale, start, oldCache, oldCachedAt, observed, rfl, handshake⟩ := recovers.stage
        · -- the second request is on its way
          rw [Unsent, handed_inFlight] at unsent
          cases unsent
        · have own (session' : MCPSessionManager) :
              Disturbs (.exchanging (.listTools allowStale start oldCache oldCachedAt) stage exchange
                (.inFlight withBody)) (.answered outcome) s.session session' ↔ Resets s.session session' := by
            rw [disturbs_iff (show ¬ Interrupts (.answered outcome) from not_false)]
            refine and_iff_right ?_
            obtain rfl | rfl := handshake <;> trivial
          rw [Continues, own]
          exact answered_concludes handshake outcome
    | _ => cases delivery <;> cases advanced

end Helpers

namespace Traffic

variable {client : MCPClient} {clock : Time}

/-- The request of a refresh of the tool list, which was sent under a session, is answered with 404 or
    410. -/
def expiredAnswer : Phase → ClientInput → Bool
  | .exchanging (.listTools ..) (.sending _) exchange (.inFlight _),
    .answered (.response statusCode _ _ _) =>
    exchange.reply.isNone && exchange.request.sessionId.isSome &&
      (statusCode = 404 || statusCode = 410)
  | _, _ => false

/-- The call sees its session expire. -/
def AnsweredExpired (id : Nat) (e : Event Traffic Resumption) : Prop :=
  e.label.id = id ∧ expiredAnswer (e.pre.phases id) e.label.input = true

/-- The generation of the session that the request of the call was sent in. -/
def observedIn : Phase → Option Nat
  | .exchanging _ (.sending observed) _ _ => some observed
  | _ => none

/-- A step of the call, or of another one, re-initializes the session. -/
def Renews (e : Event Traffic Resumption) : Prop :=
  Reinitializes e.pre.client.session e.post.client.session

/-- The re-initialization succeeds: when the answer comes a newer session is initialized, or a later step
    initializes one. -/
def Renewed (id : Nat) (e : Event Traffic Resumption) (es : List (Event Traffic Resumption)) : Prop :=
  (e.pre.client.session.state.initialized = true ∧
    some e.pre.client.session.generation ≠ observedIn (e.pre.phases id)) ∨ ∃ f ∈ es, Renews f

/-- A step of the call disturbs its recovery, before its second request is handed over. -/
def DisturbedBy (id : Nat) (e : Event Traffic Resumption) : Prop :=
  e.label.id = id ∧ Recovers (e.pre.phases id) ∧ Unsent (e.pre.phases id) ∧
    Disturbs (e.pre.phases id) e.label.input e.pre.client.session e.post.client.session

/-- Nothing disturbs the recovery of the call. -/
def Undisturbed (id : Nat) (es : List (Event Traffic Resumption)) : Prop := ∀ e ∈ es, ¬ DisturbedBy id e

/-- The call has sent its request again, once, under a newer session. -/
def ResentOnce (id : Nat) (s : Traffic) : Prop :=
  ∃ first second, requestsOf id s.client.sent = [first, second] ∧
    first.post.generation < second.post.generation ∧ second.post.initialized = true

/-- The call still recovers, or has sent its request again. -/
def Recovering (id : Nat) (s : Traffic) : Prop :=
  Recovers (s.phases id) ∧ Unsent (s.phases id) ∨ 2 ≤ (requestsOf id s.client.sent).length

/-- The call is over, and has sent one request. -/
def GivenUp (id : Nat) (s : Traffic) : Prop :=
  (∃ result, s.phases id = .done result) ∧ ∃ t, requestsOf id s.client.sent = [t]

/-- After the recovery has begun, either nothing has disturbed it or the call has given up. -/
def Decided (id : Nat) (past : List (Event Traffic Resumption)) (s : Traffic) : Prop :=
  Undisturbed id past ∧ Recovering id s ∨ ¬ Undisturbed id past ∧ GivenUp id s

/-- A call that recovers has sent one request. -/
lemma sent_one {id : Nat} {past : List (Event Traffic Resumption)} {s : Traffic} (inv : Inv client past s)
    (recovers : Recovers (s.phases id)) (unsent : Unsent (s.phases id)) :
    ∃ t, requestsOf id s.client.sent = [t] := by
  have stands := inv id
  generalize s.phases id = phase at recovers unsent stands
  cases phase with
  | idle | waitingTools | closing | done => exact recovers.elim
  | waitingSession task why =>
    cases task with
    | initializeSession | callTool => exact recovers.elim
    | listTools =>
      cases why with
      | ensure => exact recovers.elim
      | recover =>
        obtain ⟨⟨⟨t, sent, -⟩, -⟩, -⟩ := stands
        exact ⟨t, sent⟩
  | exchanging task stage exchange delivery =>
    obtain ⟨-, stands⟩ := stands
    obtain rfl | ⟨_, _, _, _, observed, rfl, rfl | rfl⟩ := recovers.stage
    · obtain ⟨first, second, -, -, sent⟩ := stands
      rw [if_neg (by rw [unsent]; exact Bool.false_ne_true)] at sent
      exact ⟨first, sent⟩
    · obtain ⟨⟨⟨t, sent, -⟩, -⟩, -⟩ := stands
      exact ⟨t, sent⟩
    · obtain ⟨⟨⟨t, sent, -⟩, -⟩, -⟩ := stands
      exact ⟨t, sent⟩

/-- A recovery that goes on has handed its second request over, or has it still to send. -/
lemma Recovers.recovering {id : Nat} {past : List (Event Traffic Resumption)} {s : Traffic}
    (inv : Inv client past s) (recovers : Recovers (s.phases id)) : Recovering id s := by
  by_cases unsent : Unsent (s.phases id)
  · exact .inl ⟨recovers, unsent⟩
  · have stands := inv id
    generalize s.phases id = phase at recovers unsent stands
    cases phase with
    | exchanging task stage exchange delivery =>
      cases stage with
      | resending =>
        obtain ⟨-, first, second, -, -, sent⟩ := stands
        rw [if_pos (by simpa [Unsent] using unsent)] at sent
        refine .inr ?_
        rw [sent]
        exact Nat.le_refl _
      | _ => exact absurd trivial unsent
    | _ => exact absurd trivial unsent

lemma requests_grow {id : Nat} {past : List (Event Traffic Resumption)} {e : Event Traffic Resumption}
    (inv : Inv client past e.pre) (st : Step client e.pre e.label e.post) :
    (requestsOf id e.pre.client.sent).length ≤ (requestsOf id e.post.client.sent).length := by
  have sends := inv.sends st
  generalize e.pre.phases e.label.id = p at sends
  generalize e.label.input = i at sends
  generalize e.post.client.sent = sent at sends
  cases sends with
  | nothing => exact Nat.le_refl _
  | handed | redirected =>
    rw [requestsOf, requestsOf, List.filter_append, List.length_append]
    exact Nat.le_add_right _ _

/-- A call that is over stays as it is. -/
lemma GivenUp.step {id : Nat} {past : List (Event Traffic Resumption)} {e : Event Traffic Resumption}
    (inv : Inv client past e.pre) (st : Step client e.pre e.label e.post) (given : GivenUp id e.pre) :
    GivenUp id e.post := by
  obtain ⟨⟨result, done⟩, t, sent⟩ := given
  obtain ⟨advanced, others⟩ := st.advanced
  have other : id ≠ e.label.id := by
    rintro rfl
    rw [done] at advanced
    cases advanced
  refine ⟨⟨result, ?_⟩, t, ?_⟩
  · rw [others id other, done]
  · rw [(inv.sends st).others other, sent]

/-- A step of anybody: a recovery goes on, or is disturbed and given up. -/
lemma Recovering.step {id : Nat} {past : List (Event Traffic Resumption)} {e : Event Traffic Resumption}
    (inv : Inv client past e.pre) (st : Step client e.pre e.label e.post) (recovering : Recovering id e.pre) :
    ¬ DisturbedBy id e ∧ Recovering id e.post ∨ DisturbedBy id e ∧ GivenUp id e.post := by
  by_cases begun : Recovers (e.pre.phases id) ∧ Unsent (e.pre.phases id)
  · obtain ⟨recovers, unsent⟩ := begun
    obtain ⟨advanced, others⟩ := st.advanced
    by_cases own : e.label.id = id
    · subst own
      obtain ⟨kept, next⟩ | ⟨disturbed, done, sent⟩ := advance_continues recovers unsent advanced
      · exact .inl ⟨fun disturbed => kept disturbed.2.2.2, Recovers.recovering (inv.step st) next⟩
      · refine .inr ⟨⟨rfl, recovers, unsent, disturbed⟩, done, ?_⟩
        rw [show e.post.client.sent = e.pre.client.sent from sent]
        exact sent_one inv recovers unsent
    · refine .inl ⟨fun disturbed => own disturbed.1, .inl ?_⟩
      rw [others id (Ne.symm own)]
      exact ⟨recovers, unsent⟩
  · refine .inl ⟨fun disturbed => begun ⟨disturbed.2.1, disturbed.2.2.1⟩, .inr ?_⟩
    exact (recovering.resolve_left begun).trans (requests_grow inv st)

lemma undisturbed_append {id : Nat} {past : List (Event Traffic Resumption)} {e : Event Traffic Resumption} :
    Undisturbed id (past ++ [e]) ↔ Undisturbed id past ∧ ¬ DisturbedBy id e := by
  simp only [Undisturbed, List.forall_mem_append, List.forall_mem_singleton]

lemma Decided.step {id : Nat} {before past : List (Event Traffic Resumption)} {e : Event Traffic Resumption}
    (inv : Inv client before e.pre) (st : Step client e.pre e.label e.post) (decided : Decided id past e.pre) :
    Decided id (past ++ [e]) e.post := by
  rw [Decided, undisturbed_append]
  obtain ⟨kept, recovering⟩ | ⟨disturbed, given⟩ := decided
  · obtain ⟨calm, next⟩ | ⟨disturbed, given⟩ := recovering.step inv st
    · exact .inl ⟨⟨kept, calm⟩, next⟩
    · exact .inr ⟨fun all => all.2 disturbed, given⟩
  · exact .inr ⟨fun all => disturbed all.1, given.step inv st⟩

lemma GivenUp.not_resent {id : Nat} {s : Traffic} (given : GivenUp id s) : ¬ ResentOnce id s := by
  rintro ⟨first, second, sent, -⟩
  obtain ⟨-, t, once⟩ := given
  rw [sent] at once
  cases once

/-- A call that is over and has sent two requests has sent the second one behind a recovery. -/
lemma Recovering.resent {id : Nat} {es : List (Event Traffic Resumption)} {s : Traffic}
    {result : Except McpError ClientResult} (inv : Inv client es s) (recovering : Recovering id s)
    (done : s.phases id = .done result) : ResentOnce id s := by
  obtain ⟨recovers, -⟩ | both := recovering
  · rw [done] at recovers
    exact recovers.elim
  · obtain none | ⟨t, one⟩ | ⟨first, second, sent, resent⟩ := (inv id).atMost
    · rw [none] at both
      cases both
    · rw [one] at both
      exact absurd both (Nat.not_succ_le_self 1)
    · exact ⟨first, second, sent, resent.newer, resent.initialized⟩

lemma AnsweredExpired.cases {id : Nat} {e : Event Traffic Resumption}
    (answered : AnsweredExpired id e) : ∃ allowStale start oldCache oldCachedAt observed exchange withBody
      code headers text statusText, e.label.id = id ∧
        e.pre.phases id = .exchanging (.listTools allowStale start oldCache oldCachedAt)
          (.sending observed) exchange (.inFlight withBody) ∧
        e.label.input = .answered (.response code headers text statusText) ∧
          (code = 404 ∨ code = 410) := by
  obtain ⟨own, check⟩ := answered
  unfold expiredAnswer at check
  split at check
  · next phase input =>
    have code := (Bool.and_eq_true_iff.mp check).2
    exact ⟨_, _, _, _, _, _, _, _, _, _, _, own, phase, input, by simpa using code⟩
  · cases check

/-- The answer is taken for an expired session exactly when the client has a session. -/
lemma AnsweredExpired.step {id : Nat} {e : Event Traffic Resumption}
    (enabled : client.settings.mcpSessionEnabled = true) (answered : AnsweredExpired id e)
    (st : Step client e.pre e.label e.post) :
    if e.pre.client.session.state.sessionId ≠ none then
      Recovers (e.post.phases id) ∧ Unsent (e.post.phases id)
    else ∃ result, e.post.phases id = .done result := by
  obtain ⟨allowStale, start, oldCache, oldCachedAt, observed, exchange, withBody, code, headers, text,
    statusText, rfl, phase, input, expired⟩ := answered.cases
  obtain ⟨advanced, -⟩ := st.advanced
  have refused : code < 200 ∨ 300 ≤ code := by omega
  have status : ∃ message, client.decodePost exchange.post.allowEmpty
      (.response code headers text statusText) = .error (.httpStatus code message) := by
    rw [MCPClient.decodePost, if_pos refused]
    exact ⟨_, rfl⟩
  obtain ⟨message, decoded⟩ := status
  have gone : (decide (code = 404) || decide (code = 410)) = true := by simpa using expired
  rw [phase, input, MCPClient.advance] at advanced
  injection advanced with advanced
  rw [MCPClient.answered, decoded] at advanced
  have own := congrArg Prod.snd advanced
  simp only [MCPClient.settle, enabled, gone, Bool.true_and, Bool.and_true] at own
  cases session : e.pre.client.session.state.sessionId with
  | none =>
    rw [if_neg (not_not.mpr rfl)]
    rw [session] at own
    rw [← own, Option.isSome_none, if_neg Bool.false_ne_true]
    exact (finish_done _ _ _ _ _ _).1
  | some sessionId =>
    rw [if_pos (Option.some_ne_none sessionId)]
    rw [session] at own
    exact acquireSession_recovers own.symm

/-- The call had sent one request when the answer came. -/
lemma AnsweredExpired.once {id : Nat} {past : List (Event Traffic Resumption)}
    {e : Event Traffic Resumption} (inv : Inv client past e.pre)
    (st : Step client e.pre e.label e.post) (answered : AnsweredExpired id e) :
    ∃ t, requestsOf id e.post.client.sent = [t] := by
  obtain ⟨allowStale, start, oldCache, oldCachedAt, observed, exchange, withBody, code, headers, text,
    statusText, rfl, phase, input, -⟩ := answered.cases
  have stands := inv e.label.id
  rw [phase] at stands
  obtain ⟨-, -, -, -, sent⟩ := stands
  rw [if_pos (handed_inFlight exchange withBody)] at sent
  obtain ⟨t, sent, -⟩ := sent
  have sends := inv.sends st
  rw [input] at sends
  generalize e.pre.phases e.label.id = p at sends
  generalize e.post.client.sent = after at sends ⊢
  cases sends with
  | nothing => exact ⟨t, sent⟩

/-- How a call whose session expired comes out: with a session it is decided by what disturbs it, without one
    it gives up at once. -/
lemma AnsweredExpired.decided {xs ys : List (Event Traffic Resumption)} {e : Event Traffic Resumption}
    {s : Traffic} {id : Nat} (run : Run (Step client) (start client clock) (xs ++ e :: ys) s)
    (enabled : client.settings.mcpSessionEnabled = true) (answered : AnsweredExpired id e) :
    if e.pre.client.session.state.sessionId ≠ none then Decided id ys s
    else GivenUp id s ∧ Undisturbed id ys := by
  obtain ⟨t, before, after⟩ := run.split
  obtain ⟨rfl, st, after⟩ := after.head
  have inv := Inv.run before
  have step := answered.step enabled st
  have histories {I : List (Event Traffic Resumption) → Traffic → Prop} (begins : I [] e.post)
      (goes : ∀ past f, Inv client (xs ++ [e] ++ past) f.pre → Step client f.pre f.label f.post →
        I past f.pre → I (past ++ [f]) f.post) : I ys s := by
    refine (after.invariant_history (I := fun past s => Inv client (xs ++ [e] ++ past) s ∧ I past s) ?_
      ⟨by simpa using inv.step st, begins⟩).2
    rintro past f st ⟨inv, kept⟩
    refine ⟨?_, goes past f inv st kept⟩
    rw [← List.append_assoc]
    exact inv.step st
  split
  · next session =>
    rw [if_pos session] at step
    refine histories (.inl ⟨List.forall_mem_nil _, .inl step⟩) ?_
    exact fun past f inv st decided => decided.step inv st
  · next session =>
    rw [if_neg session] at step
    refine histories (I := fun past s => GivenUp id s ∧ Undisturbed id past)
      ⟨⟨step, answered.once inv st⟩, List.forall_mem_nil _⟩ ?_
    rintro past f inv st ⟨given, calm⟩
    refine ⟨given.step inv st, undisturbed_append.mpr ⟨calm, ?_⟩⟩
    rintro ⟨-, recovers, -⟩
    obtain ⟨⟨result, done⟩, -⟩ := given
    rw [done] at recovers
    exact recovers

/-- A refresh of the tool list whose session is reported expired, and re-initialized by it or by another call,
    sends its request again exactly when the client has a session at the moment of the answer, and afterwards the
    call is not cancelled, the meter refuses none of its messages, and the handshake that it makes itself, if
    it makes one, does not fail. -/
theorem expiry_recovered_iff {xs ys : List (Event Traffic Resumption)} {e : Event Traffic Resumption}
    {s : Traffic} {id : Nat} {result : Except McpError ClientResult}
    (run : Run (Step client) (start client clock) (xs ++ e :: ys) s)
    (enabled : client.settings.mcpSessionEnabled = true) (answered : AnsweredExpired id e)
    (ended : s.phases id = .done result) :
    Renewed id e ys →
      (ResentOnce id s ↔ e.pre.client.session.state.sessionId ≠ none ∧ Undisturbed id ys) := by
  intro _
  have decided := answered.decided run enabled
  split at decided
  · next session =>
    rw [and_iff_right session]
    obtain ⟨kept, recovering⟩ | ⟨disturbed, given⟩ := decided
    · exact iff_of_true (recovering.resent (Inv.run run) ended) kept
    · exact iff_of_false given.not_resent disturbed
  · next session =>
    exact iff_of_false decided.1.not_resent fun both => session both.1

section Samples

/-- Meanwhile a call of a tool sees the same session expire and asks for another one. -/
def sampleOvertaking : List Resumption :=
  [⟨1, .call (.callTool (.str "search") .null), 0⟩, ⟨1, .opened none, 0⟩, ⟨1, sampleGone 410, 0⟩,
   ⟨1, .opened none, 0⟩]

/-- The call of the tool gets the other session, up to the last answer of its handshake. -/
def sampleReplacement : List Resumption :=
  [⟨1, sampleGrant 4 "session-2", 0⟩, ⟨1, .opened none, 0⟩]

/-- A new session is initialized. -/
def renews (session session' : MCPSessionManager) : Bool :=
  session.generation < session'.generation && session'.state.initialized

lemma reinitializes_of_renews {session session' : MCPSessionManager} (check : renews session session' = true) :
    Reinitializes session session' := by
  obtain ⟨newer, initialized⟩ := Bool.and_eq_true_iff.mp check
  exact ⟨of_decide_eq_true newer, initialized⟩

/-- The tool list's request is answered after the session was reset for another call. That call gets a
    session; the refresh ends with the plain HTTP error. -/
theorem overtaken_not_resent : ¬ ∀ (xs ys : List (Event Traffic Resumption))
    (e : Event Traffic Resumption) (s : Traffic) (id : Nat) (result : Except McpError ClientResult),
    Run (Step sampleSessionClient) (start sampleSessionClient 0) (xs ++ e :: ys) s →
    AnsweredExpired id e → s.phases id = .done result → Renewed id e ys → Undisturbed id ys →
    ResentOnce id s := by
  intro resent
  have check : (reached (take sampleSessionClient) (start sampleSessionClient 0)
      (sampleRefresh ++ sampleOvertaking)).any fun t =>
        expiredAnswer (t.phases 0) (sampleGone 404) && t.client.session.state.sessionId.isNone &&
          (take sampleSessionClient t ⟨0, sampleGone 404, 0⟩).any fun u =>
            (reached (take sampleSessionClient) u sampleReplacement).any fun v =>
              (take sampleSessionClient v ⟨1, sampleAccepted, 0⟩).any fun w =>
                renews v.client.session w.client.session := by
    decide +kernel
  obtain ⟨before, t, first, check⟩ := run_of_check check
  obtain ⟨found, check⟩ := Bool.and_eq_true_iff.mp check
  obtain ⟨expired, reset⟩ := Bool.and_eq_true_iff.mp found
  obtain ⟨u, gone, check⟩ := (Option.any_eq_true _ _).mp check
  obtain ⟨between, v, second, check⟩ := run_of_check check
  obtain ⟨w, accepted, new⟩ := (Option.any_eq_true _ _).mp check
  have run : Run (Step sampleSessionClient) (start sampleSessionClient 0)
      (before ++ ⟨t, ⟨0, sampleGone 404, 0⟩, u⟩ ::
        (between ++ [⟨v, ⟨1, sampleAccepted, 0⟩, w⟩])) w :=
    first.append (.cons gone (second.append (.single accepted)))
  have answered : AnsweredExpired 0 ⟨t, ⟨0, sampleGone 404, 0⟩, u⟩ := ⟨rfl, expired⟩
  have decided := answered.decided run rfl
  rw [if_neg (not_not.mpr (Option.isNone_iff_eq_none.mp reset))] at decided
  obtain ⟨given, calm⟩ := decided
  obtain ⟨result, ended⟩ := given.1
  apply given.not_resent
  apply resent _ _ _ _ 0 result run answered ended _ calm
  exact .inr ⟨_, List.mem_append_right _ (.head _), reinitializes_of_renews new⟩

/-- The call is over. -/
def isOver : Phase → Bool
  | .done _ => true
  | _ => false

lemma done_of_isOver {phase : Phase} (done : isOver phase = true) :
    ∃ result, phase = .done result := by
  cases phase with
  | done result => exact ⟨result, rfl⟩
  | _ => cases done

/-- The call is not interrupted, and the session is not given up. -/
def calm (input : ClientInput) (session session' : MCPSessionManager) : Bool :=
  let kept := session'.generation ≤ session.generation || session'.state.initialized
  match input with
  | .cancelled | .opened (some _) => false
  | _ => kept

lemma not_disturbs_of_calm {phase : Phase} {input : ClientInput} {session session' : MCPSessionManager}
    (check : calm input session session' = true) : ¬ Disturbs phase input session session' := by
  have kept (check : (decide (session'.generation ≤ session.generation) || session'.state.initialized) = true) :
      ¬ Resets session session' := by
    rintro ⟨newer, reset⟩
    rw [reset, Bool.or_false, decide_eq_true_eq] at check
    exact absurd newer (Nat.not_lt.mpr check)
  rintro (interrupts | ⟨-, resets⟩)
  · cases input with
    | cancelled => cases check
    | opened refused =>
      cases refused with
      | none => exact interrupts
      | some => cases check
    | _ => exact interrupts
  · cases input with
    | cancelled => cases check
    | opened refused =>
      cases refused with
      | none => exact kept check resets
      | some => cases check
    | _ => exact kept check resets

/-- The session expires, and the refresh gets another one and sends its request again. -/
theorem expiry_recovered_sample : ResentOnce 0 (play (take sampleSessionClient)
    (start sampleSessionClient 0)
    (sampleRefresh ++ ⟨0, sampleGone 404, 0⟩ :: sampleRecovery)).2 := by
  let t := (play (take sampleSessionClient) (start sampleSessionClient 0) sampleRefresh).2
  let u := (take sampleSessionClient t ⟨0, sampleGone 404, 0⟩).getD t
  obtain ⟨can, expired, session, check, renewed, ended⟩ : possible (take sampleSessionClient)
        (start sampleSessionClient 0)
        (sampleRefresh ++ ⟨0, sampleGone 404, 0⟩ :: sampleRecovery) = true ∧
      expiredAnswer (t.phases 0) (sampleGone 404) = true ∧
      t.client.session.state.sessionId ≠ none ∧
      ((play (take sampleSessionClient) u sampleRecovery).1.all fun e =>
        calm e.label.input e.pre.client.session e.post.client.session) = true ∧
      ((play (take sampleSessionClient) u sampleRecovery).1.any fun e =>
        renews e.pre.client.session e.post.client.session) = true ∧
      isOver ((play (take sampleSessionClient) (start sampleSessionClient 0)
        (sampleRefresh ++ ⟨0, sampleGone 404, 0⟩ :: sampleRecovery)).2.phases 0) = true := by
    decide +kernel
  have run : Run (Step sampleSessionClient) (start sampleSessionClient 0)
      ((play (take sampleSessionClient) (start sampleSessionClient 0) sampleRefresh).1 ++
        ⟨t, ⟨0, sampleGone 404, 0⟩, u⟩ :: (play (take sampleSessionClient) u sampleRecovery).1) _ :=
    play_run_at can
  have undisturbed : Undisturbed 0 (play (take sampleSessionClient) u sampleRecovery).1 := by
    intro e mem disturbed
    exact not_disturbs_of_calm (List.all_eq_true.mp check e mem) disturbed.2.2.2
  obtain ⟨f, mem, renews⟩ := List.any_eq_true.mp renewed
  clear_value u t
  have answered : AnsweredExpired 0 ⟨t, ⟨0, sampleGone 404, 0⟩, u⟩ := ⟨rfl, expired⟩
  obtain ⟨result, ended⟩ := done_of_isOver ended
  exact (expiry_recovered_iff run rfl answered ended (.inr ⟨f, mem, reinitializes_of_renews renews⟩)).mpr
    ⟨session, undisturbed⟩

end Samples

end Traffic

end AgentRuntime.Mcp
