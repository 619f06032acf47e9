import AgentRuntime.Mcp.Replay
import AgentRuntime.Orchestration.ExecutionMeter

/-!
# Timeouts in the meter

The calls of a client under one meter. `_post` begins an attempt for each of its messages and finishes it
with the end of the exchange; it counts a timeout when the transport raises one. The transport raises an
error of its own for a timeout of the HTTP client.
-/

namespace AgentRuntime.Mcp
open Orchestration State Transition

namespace McpError

/-- The types in the clause `except (TimeoutError, asyncio.TimeoutError, httpx.TimeoutException)` of `_post`,
    with their subtypes. -/
def timeoutTypes : List String :=
  ["TimeoutError", "TimeoutException", "ConnectTimeout", "ReadTimeout", "WriteTimeout", "PoolTimeout"]

/-- The clause catches the error. -/
def isTimeout (error : McpError) : Bool := timeoutTypes.contains error.typeName

end McpError

/-- The exchange ended in a timeout. -/
def HttpOutcome.isTimeout : HttpOutcome → Bool
  | .timeout _ _ => true
  | _ => false

/-- The exchange ended with a response, in a timeout, or in another error of the HTTP client. -/
def HttpOutcome.isHttp : HttpOutcome → Bool
  | .raised _ _ => false
  | _ => true

namespace MCPClient

variable (client : MCPClient)

/-- `timed_out` in `_post`, where its message has ended in an exchange -/
def timedOut (allowEmpty : Bool) (outcome : HttpOutcome) : Bool :=
  match client.decodePost allowEmpty outcome with
  | .ok _ => false
  | .error error => error.isTimeout

/-- What `_post` finishes the attempt of its message with, when the call goes on so. -/
def finishes : Phase → ClientInput → Option (Bool × Bool)
  | .exchanging _ _ exchange (.inFlight _), .answered outcome =>
    some ((client.decodePost exchange.post.allowEmpty outcome).isOk,
      client.timedOut exchange.post.allowEmpty outcome)
  | .exchanging _ _ _ _, .cancelled => some (false, false)
  | _, _ => none

end MCPClient

/-- The calls of a client and their meter, and the calls that have an attempt in progress. -/
structure MeteredTraffic where
  traffic : Traffic
  meter : ExecutionBudget
  begun : Nat → Bool

/-- The meter begins an attempt for the next message of a call, or refuses it; or a call goes on. -/
inductive MeteredMove where
  | begin (id : Nat) (now : Time)
  | go (resumption : Resumption)

namespace MeteredTraffic

variable (client : MCPClient)

/-- No call was made. -/
def start (clock : Time) (meter : ExecutionBudget) : MeteredTraffic where
  traffic := Traffic.start client clock
  meter := meter
  begun _ := false

/-- `begin_tool_attempt`, for the message of the call that waits to be sent -/
def begin (s : MeteredTraffic) (id : Nat) (now : Time) : Option MeteredTraffic :=
  match s.traffic.phases id with
  | .exchanging _ _ _ .queued =>
    if s.begun id || now < s.traffic.clock then none
    else
      match s.meter.beginToolAttempt now with
      | .ok meter =>
        some { traffic := { s.traffic with clock := now }
               meter := meter
               begun := Function.update s.begun id true }
      | .error exc =>
        (s.traffic.take client ⟨id, .opened (some exc.message), now⟩).map fun traffic =>
          { s with traffic := traffic }
  | _ => none

/-- The call may go on so: a message is sent when its attempt has begun, and only the meter refuses one. -/
def allows (s : MeteredTraffic) (resumption : Resumption) : Bool :=
  match resumption.input with
  | .opened none => s.begun resumption.id
  | .opened (some _) => false
  | _ => true

/-- `finish_tool_attempt`, for the attempt of the call if it has one in progress -/
def finish (s : MeteredTraffic) (id : Nat) : Option (Bool × Bool) → MeteredTraffic
  | some (success, timedOut) =>
    if s.begun id then
      { s with
        meter := s.meter.finishToolAttempt success timedOut
        begun := Function.update s.begun id false }
    else s
  | none => s

/-- The state after a move, where it can be made. -/
def take (s : MeteredTraffic) : MeteredMove → Option MeteredTraffic
  | .begin id now => s.begin client id now
  | .go resumption =>
    if s.allows resumption then
      (s.traffic.take client resumption).map fun traffic =>
        let finished := client.finishes (s.traffic.phases resumption.id) resumption.input
        { s.finish resumption.id finished with traffic := traffic }
    else none

/-- A move. -/
def Step (s : MeteredTraffic) (move : MeteredMove) (s' : MeteredTraffic) : Prop :=
  s.take client move = some s'

/-- How the exchange of a message ends with the move, if one does. -/
def outcome? (s : MeteredTraffic) : MeteredMove → Option HttpOutcome
  | .begin _ _ => none
  | .go resumption =>
    match s.traffic.phases resumption.id, resumption.input with
    | .exchanging _ _ _ (.inFlight _), .answered outcome => some outcome
    | _, _ => none

/-- The exchange of a message ends in a timeout. -/
def endsInTimeout (e : Event MeteredTraffic MeteredMove) : Bool :=
  (outcome? e.pre e.label).any HttpOutcome.isTimeout

end MeteredTraffic

section Timeouts

variable {client : MCPClient} {allowEmpty : Bool} {outcome : HttpOutcome}

/-- The errors that the transport raises at the end of an exchange of the HTTP client are its own. -/
lemma decodePost_http {error : McpError} (http : outcome.isHttp = true)
    (failed : client.decodePost allowEmpty outcome = .error error) :
    (∃ message, error = .transport message) ∨ (∃ code message, error = .httpStatus code message) ∨
      error.OfText := by
  cases outcome with
  | response statusCode headers text statusText =>
    unfold MCPClient.decodePost at failed
    dsimp only at failed
    split at failed
    · cases failed
      exact .inr (.inl ⟨_, _, rfl⟩)
    · split at failed
      · cases failed
      · split at failed
        · cases failed
          exact .inr (.inr (.inl ⟨_, rfl⟩))
        · cases decoded : decodeJsonMessages client.limits client.floats text
              ((headers.lookup "content-type").getD "") with
          | error error =>
            rw [decoded] at failed
            cases failed
            exact .inr (.inr (decodeJsonMessages_error decoded))
          | ok messages =>
            rw [decoded] at failed
            cases failed
  | timeout type message =>
    cases failed
    exact .inl ⟨_, rfl⟩
  | httpError type message =>
    cases failed
    exact .inl ⟨_, rfl⟩
  | raised type message => exact absurd http Bool.false_ne_true

/-- `_post` recognises none of them as a timeout. -/
lemma timedOut_http (http : outcome.isHttp = true) : client.timedOut allowEmpty outcome = false := by
  rw [MCPClient.timedOut]
  cases failed : client.decodePost allowEmpty outcome with
  | ok messages => rfl
  | error error =>
    obtain ⟨_, rfl⟩ | ⟨_, _, rfl⟩ | ⟨_, rfl⟩ | ⟨broken, rfl⟩ := decodePost_http http failed
    · rfl
    · rfl
    · rfl
    · cases broken with
      | digits => rfl
      | nesting => rfl

end Timeouts

namespace MeteredTraffic

variable {client : MCPClient} {s s' : MeteredTraffic} {move : MeteredMove}

/-- A timeout that `_post` recognises is one of an exchange. -/
lemma finishes_timedOut {resumption : Resumption} {success timedOut : Bool}
    (finished : client.finishes (s.traffic.phases resumption.id) resumption.input =
      some (success, timedOut)) :
    timedOut = false ∨ ∃ outcome allowEmpty, outcome? s (.go resumption) = some outcome ∧
      timedOut = client.timedOut allowEmpty outcome := by
  obtain ⟨id, input, now⟩ := resumption
  simp only [outcome?] at finished ⊢
  generalize s.traffic.phases id = phase at finished ⊢
  unfold MCPClient.finishes at finished
  split at finished
  · cases finished
    exact .inr ⟨_, _, rfl, rfl⟩
  · cases finished
    exact .inl rfl
  · cases finished

/-- The count of timeouts behind the end of an attempt. -/
lemma finish_toolTimeouts (s : MeteredTraffic) (id : Nat) {finished : Option (Bool × Bool)}
    (unrecognised : ∀ success timedOut, finished = some (success, timedOut) → timedOut = false) :
    (s.finish id finished).meter.state.toolTimeouts = s.meter.state.toolTimeouts := by
  cases finished with
  | none => rfl
  | some finished =>
    obtain ⟨success, timedOut⟩ := finished
    obtain rfl := unrecognised success timedOut rfl
    rw [finish]
    split
    · rfl
    · rfl

/-- A move counts no timeout while the exchanges end as the HTTP client ends them. -/
lemma step_toolTimeouts (st : s.Step client move s')
    (http : ∀ outcome, outcome? s move = some outcome → outcome.isHttp = true) :
    s'.meter.state.toolTimeouts = s.meter.state.toolTimeouts := by
  cases move with
  | begin id now =>
    simp only [Step, take, begin] at st
    split at st
    · split at st
      · cases st
      · split at st
        · next meter begins =>
          cases st
          rw [(ExecutionBudget.beginToolAttempt_ok begins).2]
        · obtain ⟨traffic, -, rfl⟩ := Option.map_eq_some_iff.mp st
          rfl
    · cases st
  | go resumption =>
    simp only [Step, take] at st
    split at st
    · obtain ⟨traffic, -, rfl⟩ := Option.map_eq_some_iff.mp st
      apply finish_toolTimeouts
      intro success timedOut finished
      obtain none | ⟨outcome, allowEmpty, ends, recognised⟩ := finishes_timedOut finished
      · exact none
      · rw [recognised]
        exact timedOut_http (http outcome ends)
    · cases st

variable {clock : Time} {meter : ExecutionBudget} {events : List (Event MeteredTraffic MeteredMove)}

/-- In every run whose exchanges end with a response, in a timeout or in another error of the HTTP client,
    the meter has the number of timeouts exactly when there was none. -/
theorem timeouts_counted_iff (fresh : meter.state.toolTimeouts = 0)
    (run : Run (Step client) (start client clock meter) events s)
    (http : ∀ e ∈ events, ∀ outcome, outcome? e.pre e.label = some outcome → outcome.isHttp = true) :
    s.meter.state.toolTimeouts = events.countP endsInTimeout ↔
      ∀ e ∈ events, endsInTimeout e = false := by
  have none : s.meter.state.toolTimeouts = 0 := by
    refine run.invariant (I := fun s => s.meter.state.toolTimeouts = 0) ?_ http fresh
    intro e st http none
    rw [step_toolTimeouts st http]
    exact none
  rw [none, eq_comm, List.countP_eq_zero]
  exact forall₂_congr fun e _ => Bool.eq_false_iff.symm

section Samples

/-- A meter for examples. -/
def sampleBudget : ExecutionBudget := .fresh 0 (seconds 180) 8 10 3

lemma http_of_check {events : List (Event MeteredTraffic MeteredMove)}
    (check : (events.all fun e => (outcome? e.pre e.label).all HttpOutcome.isHttp) = true) :
    ∀ e ∈ events, ∀ outcome, outcome? e.pre e.label = some outcome → outcome.isHttp = true := by
  intro e mem outcome ends
  have http := List.all_eq_true.mp check e mem
  rwa [ends, Option.all_some] at http

/-- A call of a tool whose one exchange ends so. -/
def sampleCall (outcome : HttpOutcome) : List MeteredMove :=
  [.go ⟨0, .call (.callTool (.str "search") .null), 0⟩, .begin 0 0, .go ⟨0, .opened none, 0⟩,
   .go ⟨0, .answered outcome, 0⟩]

theorem timeouts_counted_sample :
    let played := play (take Traffic.sampleClient) (start Traffic.sampleClient 0 sampleBudget)
      (sampleCall (.response 503 [] "" "unavailable"))
    played.2.meter.state.toolTimeouts = played.1.countP endsInTimeout ↔
      ∀ e ∈ played.1, endsInTimeout e = false :=
  timeouts_counted_iff rfl (play_run (by decide +kernel)) (http_of_check (by decide +kernel))

/-- The HTTP client times out, and the meter has no timeout. -/
theorem timeout_not_counted : ¬ ∀ (client : MCPClient) (clock : Time) (meter : ExecutionBudget)
    (events : List (Event MeteredTraffic MeteredMove)) (s : MeteredTraffic),
    meter.state.toolTimeouts = 0 → Run (Step client) (start client clock meter) events s →
    (∀ e ∈ events, ∀ outcome, outcome? e.pre e.label = some outcome → outcome.isHttp = true) →
    s.meter.state.toolTimeouts = events.countP endsInTimeout := by
  intro claim
  have run := play_run (by decide +kernel : possible (take Traffic.sampleClient)
    (start Traffic.sampleClient 0 sampleBudget) (sampleCall (.timeout "ReadTimeout" "")) = true)
  have counted := claim _ _ _ _ _ rfl run (http_of_check (by decide +kernel))
  revert counted
  decide +kernel

end Samples

end MeteredTraffic

end AgentRuntime.Mcp
