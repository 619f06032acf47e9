import AgentRuntime.Mcp.Client
import Mathlib.Logic.Relation

/-!
# The meter inside a tool call

What one `call_tool` goes through, with the meter of its request: `_post` begins an attempt before each
message and finishes it after, and a refusal of the meter is raised there. Between the steps of the call
the client may be in any state, as other calls leave it. The refusal ends the call, which returns it as
the result of a failed tool.
-/

namespace AgentRuntime.Mcp
open Orchestration Tools Relation

section Refusal

/-- The refusal of the meter among the exchanges of a call. -/
def refusalIn : List Tools.Exchange → ExecutionBudget → Option BudgetExceeded
  | [], _ => none
  | exchange :: rest, budget =>
    match budget.beginToolAttempt exchange.now with
    | .error exc => some exc
    | .ok _ => refusalIn rest (exchange.metered budget)

/-- The meter behind the exchanges of a call. -/
def meterAfter (exchanges : List Tools.Exchange) (budget : ExecutionBudget) : ExecutionBudget :=
  exchanges.foldl (fun budget exchange => exchange.metered budget) budget

variable {exchanges : List Tools.Exchange} {exchange : Tools.Exchange} {budget : ExecutionBudget}

lemma refusalIn_append (none : refusalIn exchanges budget = none) :
    refusalIn (exchanges ++ [exchange]) budget =
      refusalIn [exchange] (meterAfter exchanges budget) := by
  induction exchanges generalizing budget with
  | nil => rfl
  | cons first rest ih =>
    simp only [refusalIn] at none
    split at none
    · cases none
    · next begun =>
      simp only [List.cons_append, refusalIn, begun, meterAfter, List.foldl_cons]
      exact ih none

/-- The refusal of the meter in one execution of a tool, by the executor or by the client. -/
def refusalOf (lower : String → String) (env : Environment) (name : String)
    (budget : ExecutionBudget) : Option BudgetExceeded :=
  if isExplicitlySafeRead lower name (policyFor lower name) then
    match env.wait with
    | .admitted waited =>
      let budget := budget.addQueueWait waited
      if env.attemptsMetered then refusalIn env.exchanges budget
      else
        match budget.beginToolAttempt env.now with
        | .error exc => some exc
        | .ok budget => refusalIn env.exchanges budget
    | .timedOut | .cancelled => none
  else none

end Refusal

/-- A call of a tool, with the exchanges that it made, the time at which its attempt in progress was
    begun, and the refusal of the meter. -/
structure MeteredCall where
  phase : Phase
  exchanges : List Tools.Exchange := []
  attempt : Option Time := none
  refusal : Option BudgetExceeded := none

/-- `success` in `_post` -/
def succeeds (client : MCPClient) (allowEmpty : Bool) : ClientInput → Bool
  | .answered outcome => (client.decodePost allowEmpty outcome).isOk
  | _ => false

/-- `timed_out` in `_post`: the transport has turned the timeouts of the HTTP client into errors of its
    own. -/
def timesOut : ClientInput → Bool
  | .answered (.raised type _) => type = "TimeoutError"
  | _ => false

/-- The call can go on from its phase so, in some state of the client. -/
def MCPClient.Passes (client : MCPClient) (id : Nat) (now : Time) (phase : Phase)
    (input : ClientInput) (phase' : Phase) : Prop :=
  ∃ s s', client.advance id s now phase input = some (s', phase')

namespace MeteredCall

variable (client : MCPClient) (id : Nat) (budget : ExecutionBudget)

/-- A step of the call. -/
inductive Step : MeteredCall → MeteredCall → Prop
  /-- the lock of the session is there, or the wait for it is cancelled -/
  | session {c : MeteredCall} {now : Time} {task : Task} {why : Purpose}
      {input : ClientInput} {phase : Phase} (position : c.phase = .waitingSession task why)
      (goes : client.Passes id now c.phase input phase) :
      Step c { c with phase := phase }
  /-- the meter begins the attempt of the next message -/
  | begin {c : MeteredCall} {now : Time} {task : Task} {stage : Stage} {exchange : Exchange}
      {budget' : ExecutionBudget} (position : c.phase = .exchanging task stage exchange .queued)
      (idle : c.attempt = none)
      (begun : (meterAfter c.exchanges budget).beginToolAttempt now = .ok budget') :
      Step c { c with attempt := some now }
  /-- the meter refuses the attempt of the next message -/
  | refuse {c : MeteredCall} {now : Time} {task : Task} {stage : Stage}
      {exchange : Exchange} {exc : BudgetExceeded} {phase : Phase}
      (position : c.phase = .exchanging task stage exchange .queued) (idle : c.attempt = none)
      (refused : (meterAfter c.exchanges budget).beginToolAttempt now = .error exc)
      (goes : client.Passes id now c.phase (.opened (some exc.message)) phase) :
      Step c
        { c with
          phase := phase
          exchanges := c.exchanges ++ [⟨now, false, false⟩]
          refusal := some exc }
  /-- the wait for the lock of the meter is cancelled -/
  | cancel {c : MeteredCall} {now : Time} {task : Task} {stage : Stage}
      {exchange : Exchange} {phase : Phase}
      (position : c.phase = .exchanging task stage exchange .queued) (idle : c.attempt = none)
      (goes : client.Passes id now c.phase .cancelled phase) :
      Step c { c with phase := phase }
  /-- the message is handed to the HTTP client, or sent again for a redirect -/
  | send {c : MeteredCall} {now start : Time} {task : Task} {stage : Stage}
      {exchange : Exchange} {delivery : Delivery} {input : ClientInput} {phase : Phase}
      (position : c.phase = .exchanging task stage exchange delivery)
      (begun : c.attempt = some start)
      (sends : input = .opened none ∨ ∃ statusCode, input = .redirected statusCode)
      (goes : client.Passes id now c.phase input phase) :
      Step c { c with phase := phase }
  /-- the exchange ends and the attempt is finished -/
  | finish {c : MeteredCall} {now start : Time} {task : Task} {stage : Stage}
      {exchange : Exchange} {delivery : Delivery} {input : ClientInput} {phase : Phase}
      (position : c.phase = .exchanging task stage exchange delivery)
      (begun : c.attempt = some start)
      (ends : input = .cancelled ∨ ∃ outcome, input = .answered outcome)
      (goes : client.Passes id now c.phase input phase) :
      Step c
        { c with
          phase := phase
          exchanges := c.exchanges ++
            [⟨start, succeeds client exchange.post.allowEmpty input, timesOut input⟩]
          attempt := none }

end MeteredCall

/-- The result of a tool whose call ended with the error. -/
def failedTool (name : String) (error : McpError) : MCPToolResult :=
  { tool := name, ok := false, data := .null, error := some error.format }

/-- Where a call of the tool can stand. -/
def OfTool (name : String) (arguments : JsonObject) : Phase → Prop
  | .waitingSession task _ | .exchanging task _ _ _ => task = .callTool name arguments
  | .done (.ok (.tool _)) | .done (.error .cancelled) => True
  | _ => False

section Phases

variable {client : MCPClient} {id : Nat} {s : ClientState} {now : Time} {name : String}
  {arguments : JsonObject}

lemma finish_ofTool (result : Except McpError Json) :
    OfTool name arguments (client.finish id s now (.callTool name arguments) result).2 := by
  unfold MCPClient.finish
  dsimp only
  split <;> trivial

lemma proceed_ofTool (why : Purpose) :
    OfTool name arguments (client.proceed id s now (.callTool name arguments) why).2 := by
  cases why with
  | ensure => exact rfl
  | recover =>
    rw [MCPClient.proceed]
    exact finish_ofTool _

lemma enterSession_ofTool (why : Purpose) :
    OfTool name arguments (client.enterSession id s now (.callTool name arguments) why).2 := by
  unfold MCPClient.enterSession
  split
  · exact proceed_ofTool why
  · exact rfl

lemma acquireSession_ofTool (why : Purpose) :
    OfTool name arguments (client.acquireSession id s now (.callTool name arguments) why).2 := by
  unfold MCPClient.acquireSession
  dsimp only
  split
  · exact enterSession_ofTool why
  · exact rfl

lemma rpc_ofTool : OfTool name arguments (client.rpc id s now (.callTool name arguments)).2 := by
  unfold MCPClient.rpc MCPClient.ensureInitialized
  split
  · split
    · exact proceed_ofTool .ensure
    · exact acquireSession_ofTool .ensure
  · exact proceed_ofTool .ensure

lemma settle_ofTool (stage : Stage) (result : Except McpError (Json × Headers)) :
    OfTool name arguments (client.settle id s now (.callTool name arguments) stage result).2 := by
  unfold MCPClient.settle
  cases stage with
  | initializing =>
    dsimp only
    split
    · exact rfl
    · exact finish_ofTool _
  | notifying why =>
    dsimp only
    split
    · exact proceed_ofTool why
    · exact finish_ofTool _
  | sending observed =>
    dsimp only
    split
    · split
      · exact acquireSession_ofTool _
      · exact finish_ofTool _
    · exact finish_ofTool _
  | resending => exact finish_ofTool _

lemma answered_ofTool (stage : Stage) (exchange : Exchange) (outcome : HttpOutcome) :
    OfTool name arguments
      (client.answered id s now (.callTool name arguments) stage exchange outcome).2 := by
  have read (exchange : Exchange) (reading : Reading) : OfTool name arguments
      (client.read id s now (.callTool name arguments) stage exchange reading).2 := by
    unfold MCPClient.read
    split
    · exact rfl
    · exact settle_ofTool _ _
  unfold MCPClient.answered
  split
  · exact settle_ofTool _ _
  · split
    · exact read _ _
    · exact settle_ofTool _ _
    · split
      · exact settle_ofTool _ _
      · exact read _ _

/-- A call of a tool stays one, and ends with a result unless it is cancelled. -/
lemma advance_ofTool {phase : Phase} {input : ClientInput} {result : ClientState × Phase}
    (stands : OfTool name arguments phase) (goes : client.advance id s now phase input = some result) :
    OfTool name arguments result.2 := by
  cases phase with
  | idle | waitingTools | closing => exact stands.elim
  | done => cases goes
  | waitingSession task why =>
    obtain rfl : task = .callTool name arguments := stands
    cases input with
    | woken =>
      rw [MCPClient.advance] at goes
      split at goes
      · rw [← Option.some.inj goes]
        exact enterSession_ofTool why
      · cases goes
    | cancelled =>
      rw [← Option.some.inj goes]
      exact finish_ofTool _
    | _ => cases goes
  | exchanging task stage exchange delivery =>
    obtain rfl : task = .callTool name arguments := stands
    cases input with
    | call | woken => cases delivery <;> cases goes
    | opened refused =>
      cases delivery with
      | inFlight => cases goes
      | queued =>
        cases refused with
        | none =>
          rw [← Option.some.inj goes]
          exact rfl
        -- a refusal becomes a failed result
        | some message =>
          rw [← Option.some.inj goes]
          exact settle_ofTool _ _
    | redirected statusCode =>
      cases delivery with
      | queued => cases goes
      | inFlight =>
        rw [MCPClient.advance] at goes
        split at goes
        · rw [← Option.some.inj goes]
          exact rfl
        · cases goes
    | answered outcome =>
      cases delivery with
      | queued => cases goes
      | inFlight =>
        rw [← Option.some.inj goes]
        exact answered_ofTool _ _ _
    | cancelled =>
      have ended : client.settle id s now (.callTool name arguments) stage (.error .cancelled) =
          result := by
        cases delivery <;> exact Option.some.inj goes
      rw [← ended]
      exact settle_ofTool _ _

/-- A refusal of the meter is returned as the result of a failed tool, wherever it is raised. -/
lemma settle_refused (stage : Stage) (message : String) :
    (client.settle id s now (.callTool name arguments) stage (.error (.budgetExceeded message))).2 =
      .done (.ok (.tool (failedTool name (.budgetExceeded message)))) := by
  cases stage <;> rfl

end Phases

namespace MeteredCall

variable {client : MCPClient} {id : Nat} {budget : ExecutionBudget} {c c' : MeteredCall}
  {name : String} {arguments : JsonObject}

/-- What holds of a call at every moment: as long as the meter has not refused it has counted every
    exchange, and once it has refused the call is over. -/
structure Inv (name : String) (arguments : JsonObject) (budget : ExecutionBudget) (c : MeteredCall) :
    Prop where
  going : c.refusal = none →
    OfTool name arguments c.phase ∧ refusalIn c.exchanges budget = none
  stopped : ∀ exc, c.refusal = some exc →
    c.phase = .done (.ok (.tool (failedTool name (.budgetExceeded exc.message)))) ∧
      refusalIn c.exchanges budget = some exc
  begun : ∀ start, c.attempt = some start →
    ∃ budget', (meterAfter c.exchanges budget).beginToolAttempt start = .ok budget'

/-- A call that is not over has met no refusal. -/
lemma Inv.not_over (inv : Inv name arguments budget c) (going : ∀ result, c.phase ≠ .done result) :
    OfTool name arguments c.phase ∧ refusalIn c.exchanges budget = none ∧ c.refusal = none := by
  cases refusal : c.refusal with
  | none =>
    obtain ⟨stands, none⟩ := inv.going refusal
    exact ⟨stands, none, rfl⟩
  | some exc => exact absurd (inv.stopped exc refusal).1 (going _)

lemma Inv.moved (inv : Inv name arguments budget c) (going : ∀ result, c.phase ≠ .done result)
    {now : Time} {input : ClientInput} {phase : Phase}
    (goes : client.Passes id now c.phase input phase) :
    Inv name arguments budget { c with phase := phase } := by
  obtain ⟨stands, counted, none⟩ := inv.not_over going
  obtain ⟨s, s', goes⟩ := goes
  refine ⟨fun _ => ⟨advance_ofTool stands goes, counted⟩, fun exc refused => ?_, inv.begun⟩
  rw [none] at refused
  cases refused

lemma Inv.step (inv : Inv name arguments budget c) (st : Step client id budget c c') :
    Inv name arguments budget c' := by
  cases st with
  | session position goes => exact inv.moved (by simp [position]) goes
  | begin position idle begun =>
    refine ⟨inv.going, inv.stopped, fun start same => ?_⟩
    cases same
    exact ⟨_, begun⟩
  | refuse position idle refused goes =>
    obtain ⟨stands, counted, -⟩ := inv.not_over (by simp [position])
    obtain ⟨s, s', goes⟩ := goes
    refine ⟨nofun, fun exc same => ?_, fun start begun => ?_⟩
    · cases same
      rw [position] at stands goes
      obtain rfl : _ = Task.callTool name arguments := stands
      refine ⟨?_, ?_⟩
      · rw [MCPClient.advance] at goes
        rw [← settle_refused _ _, Option.some.inj goes]
      · rw [refusalIn_append counted]
        simp only [refusalIn, refused]
    · rw [idle] at begun
      cases begun
  | cancel position idle goes => exact inv.moved (by simp [position]) goes
  | send position begun sends goes => exact inv.moved (by simp [position]) goes
  | finish position begun ends goes =>
    obtain ⟨stands, counted, none⟩ := inv.not_over (by simp [position])
    obtain ⟨s, s', goes⟩ := goes
    refine ⟨fun _ => ⟨advance_ofTool stands goes, ?_⟩, fun exc refused => ?_, nofun⟩
    · obtain ⟨budget', attempt⟩ := inv.begun _ begun
      rw [refusalIn_append counted]
      simp only [refusalIn, attempt]
    · rw [none] at refused
      cases refused

lemma Inv.run (inv : Inv name arguments budget c) (run : ReflTransGen (Step client id budget) c c') :
    Inv name arguments budget c' := by
  induction run with
  | refl => exact inv
  | tail _ st ih => exact ih.step st

/-- A call of the tool, up to its first await. -/
def made (client : MCPClient) (id : Nat) (s : ClientState) (now : Time) (name : String)
    (arguments : JsonObject) : MeteredCall where
  phase := (client.begin id s now (.callTool (.str name) (.obj arguments))).2

lemma Inv.made (client : MCPClient) (id : Nat) (s : ClientState) (now : Time) :
    Inv name arguments budget (MeteredCall.made client id s now name arguments) := by
  refine ⟨fun _ => ⟨?_, rfl⟩, nofun, nofun⟩
  simp only [MeteredCall.made, MCPClient.begin, MCPClient.callTool]
  split
  · trivial
  · exact rpc_ofTool

end MeteredCall

/-- How a call that is over ends for the executor. -/
def Ends : Phase → Answer → Prop
  | .done (.ok (.tool result)), .returned answer => answer = result
  | .done (.error .cancelled), .cancelled | .done (.error .cancelled), .deadline => True
  | _, _ => False

/-- What surrounds an execution of the tool comes from a call of the client, which meters its own
    attempts. -/
structure MadeBy (client : MCPClient) (name : String) (arguments : JsonObject)
    (budget : ExecutionBudget) (env : Environment) : Prop where
  metered : env.attemptsMetered = true
  call : ∀ waited, env.wait = .admitted waited → ∃ id s now c,
    ReflTransGen (MeteredCall.Step client id (budget.addQueueWait waited))
      (MeteredCall.made client id s now name arguments) c ∧
      env.exchanges = c.exchanges ∧ Ends c.phase env.answer

/-- The executor returns a refusal of the meter inside the client as the result of a failed tool. -/
theorem MadeBy.refused {client : MCPClient} {lower : String → String} {name : String}
    {arguments metadata : JsonObject} {budget : ExecutionBudget} {env : Environment}
    {exc : BudgetExceeded} (made : MadeBy client name arguments budget env)
    (refused : refusalOf lower env name budget = some exc) :
    (execute lower env name arguments metadata budget).result =
      .ok (failedTool name (.budgetExceeded exc.message)) := by
  simp only [refusalOf, made.metered, if_true] at refused
  split at refused
  · next safe =>
    split at refused
    · next waited admitted =>
      obtain ⟨id, s, now, c, run, exchanges, ends⟩ := made.call waited admitted
      have inv : MeteredCall.Inv name arguments (budget.addQueueWait waited) c :=
        (MeteredCall.Inv.made client id s now).run run
      rw [exchanges] at refused
      cases refusal : c.refusal with
      | none =>
        rw [(inv.going refusal).2] at refused
        cases refused
      | some exc' =>
        obtain ⟨stopped, same⟩ := inv.stopped exc' refusal
        rw [same] at refused
        cases refused
        rw [execute_admitted (isExplicitlySafeRead_iff.mp safe)]
        simp only [invoke, admitted, made.metered, if_true, callTool]
        rw [stopped] at ends
        cases answer : env.answer with
        | returned result =>
          rw [answer] at ends
          obtain rfl : result = _ := ends
          rfl
        | _ =>
          rw [answer] at ends
          exact ends.elim
    · cases refused
    · cases refused
  · cases refused

end AgentRuntime.Mcp
