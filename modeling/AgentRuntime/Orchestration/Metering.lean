import AgentRuntime.Data.Json
import AgentRuntime.Lib.Counting
import AgentRuntime.Lib.Run
import AgentRuntime.Orchestration.ExecutionMeter
import Mathlib.Algebra.Order.Ring.Int

/-!
# Attempts that share a meter

The five places that begin and finish an attempt on the meter: `OllamaClient.chat`, `stream_chat` and
`embed`, `MCPClient._post`, and the manual metering in `ToolExecutor.execute`. Tasks of one request
share its meter. The scope of a model operation is a context variable: a task that is spawned inherits a copy
of its value, and from then on the two count on their own. Beginning and finishing take the meter's lock,
which is never held over an await, so both are one move; what an attempt does in between may take any time
and end in any way. Every attempt is counted at its end, except where the end itself raises before it
counts, and the fallbacks add up except where a copy of a scope's value is behind (`meter_conserved_iff`).
-/

namespace AgentRuntime.Orchestration
open Transition

/-- The calls that meter an attempt. -/
inductive AttemptKind where
  | chat | streamChat | embed | post | manual
deriving DecidableEq

/-- An attempt on the model server. -/
def AttemptKind.isModel : AttemptKind → Bool
  | .chat | .streamChat | .embed => true
  | .post | .manual => false

/-- How the client's call ended in `ToolExecutor.execute`; `exited` is an exception that is neither a
    `CancelledError` nor an `Exception`. -/
inductive ClientOutcome where
  | returned (ok : Bool)
  | cancelled
  | timedOut
  | raised
  | exited
deriving DecidableEq

/-- The end of an attempt: for the model server, whether it had succeeded by then, and the object that
    was read from the server (for a stream, the final one), if any. -/
inductive Ending where
  | chat (success : Bool) (data : JsonObject)
  | streamChat (success : Bool) (finalPayload : Option JsonObject)
  | embed (success : Bool)
  | post (success timedOut : Bool)
  | manual (outcome : ClientOutcome)

/-- The call whose attempt ends. -/
def Ending.kind : Ending → AttemptKind
  | .chat _ _ => .chat
  | .streamChat _ _ => .streamChat
  | .embed _ => .embed
  | .post _ _ => .post
  | .manual _ => .manual

/-- source `_nonnegative_int` -/
def nonnegativeInt : Option Json → Nat
  | some (.int n) => n.toNat
  | some (.bool b) => b.toNat
  | _ => 0

/-- source `_nanoseconds_to_seconds`, as far as it raises: `float(value)` raises an `OverflowError` for an
    integer that rounds to 2^1024 or more. -/
def nanosecondsToSecondsRaises : Option Json → Bool
  | some (.int n) => 2 ^ 1024 - 2 ^ 970 ≤ n
  | _ => false

/-- The `finally` block of `chat` and of `stream_chat`: the arguments of `finish_model_attempt` are
    computed first; `none` when that raises. -/
def finishWithUsage (success : Bool) (data : JsonObject) (budget : ExecutionBudget) :
    Option ExecutionBudget :=
  if nanosecondsToSecondsRaises (data.get? "load_duration") then none
  else some (budget.finishModelAttempt success (nonnegativeInt (data.get? "prompt_eval_count"))
    (nonnegativeInt (data.get? "eval_count")))

/-- What the handlers of `ToolExecutor.execute` do on the meter; `none` when no handler applies. -/
def finishManually : ClientOutcome → ExecutionBudget → Option ExecutionBudget
  | .returned ok, budget => some (budget.finishToolAttempt ok false)
  | .cancelled, budget => some (budget.recordCancellation.finishToolAttempt false false)
  | .timedOut, budget => some (budget.finishToolAttempt false true)
  | .raised, budget => some (budget.finishToolAttempt false false)
  | .exited, _ => none

/-- The meter after the end of an attempt; `none` when the attempt is left without being counted. -/
def Ending.finish : Ending → ExecutionBudget → Option ExecutionBudget
  | .chat success data, budget => finishWithUsage success data budget
  | .streamChat success finalPayload, budget => finishWithUsage success (finalPayload.getD []) budget
  | .embed success, budget => some (budget.finishModelAttempt success 0 0)
  | .post success timedOut, budget => some (budget.finishToolAttempt success timedOut)
  | .manual outcome, budget => finishManually outcome budget

/-- The attempt ends in one of the two ways that leave it uncounted. -/
def Ending.Uncounted : Ending → Prop
  | .chat _ data => nanosecondsToSecondsRaises (data.get? "load_duration") = true
  | .streamChat _ finalPayload =>
    nanosecondsToSecondsRaises ((finalPayload.getD []).get? "load_duration") = true
  | .embed _ | .post _ _ => False
  | .manual outcome => outcome = .exited

instance : DecidablePred Ending.Uncounted
  | .chat _ _ => inferInstanceAs (Decidable (_ = _))
  | .streamChat _ _ => inferInstanceAs (Decidable (_ = _))
  | .embed _ => inferInstanceAs (Decidable False)
  | .post _ _ => inferInstanceAs (Decidable False)
  | .manual _ => inferInstanceAs (Decidable (_ = _))

/-- The value of the context variable `_MODEL_OPERATION_ATTEMPTS` in a scope: the attempts that its task knows
    of. The scope is noted by its number. -/
structure ScopeValue where
  scope : Nat
  attempts : Nat := 0

/-- The context variable in a task, and the tokens of the scopes that the task itself is in, the newest
    first: the values that leaving a scope puts back. -/
structure TaskContext where
  value : Option ScopeValue := none
  tokens : List (Option ScopeValue) := []

/-- Where an attempt is. -/
inductive AttemptStatus where
  | inFlight | counted | lost
deriving DecidableEq

/-- The meter of a request, the attempts that were made in each scope, by whichever task, the tasks of the
    request, by number, and all attempts. -/
structure Metering where
  budget : ExecutionBudget
  scopes : List Nat := []
  tasks : List TaskContext := [{}]
  attempts : List (AttemptKind × AttemptStatus) := []

/-- What tasks do to the meter: enter and leave a scope, spawn a task, begin and finish an attempt, or change
    anything else of its state, such as the rounds. -/
inductive MeterMove where
  | enter (task : Nat) (now : Time)
  | leave (task : Nat)
  | spawn (task : Nat)
  | attempt (task : Nat) (kind : AttemptKind) (now : Time)
  | finish (id : Nat) (ending : Ending)
  | elsewhere (state : ExecutionMeterState)

section Endings

/-- What finishing an attempt does to the counters: a success or a failure more on its side. -/
structure Finished (model : Bool) (before after : ExecutionBudget) : Prop where
  maxModelCalls : after.maxModelCalls = before.maxModelCalls
  maxToolCalls : after.maxToolCalls = before.maxToolCalls
  physicalModelAttempts : after.state.physicalModelAttempts = before.state.physicalModelAttempts
  toolAttempts : after.state.toolAttempts = before.state.toolAttempts
  fallbackAttempts : after.state.fallbackAttempts = before.state.fallbackAttempts
  models : after.state.modelSuccesses + after.state.modelFailures =
    before.state.modelSuccesses + before.state.modelFailures + model.toNat
  tools : after.state.toolSuccesses + after.state.toolFailures =
    before.state.toolSuccesses + before.state.toolFailures + (!model).toNat

variable {budget budget' : ExecutionBudget}

lemma finishModelAttempt_finished (success : Bool) (prompt generated : Nat) :
    Finished true budget (budget.finishModelAttempt success prompt generated) := by
  cases success <;>
    exact ⟨rfl, rfl, rfl, rfl, rfl, by simp [ExecutionBudget.finishModelAttempt]; omega, rfl⟩

lemma finishToolAttempt_finished (success timedOut : Bool) :
    Finished false budget (budget.finishToolAttempt success timedOut) := by
  cases success <;>
    exact ⟨rfl, rfl, rfl, rfl, rfl, rfl, by simp [ExecutionBudget.finishToolAttempt]; omega⟩

/-- An attempt whose end is counted is counted once, on its side. -/
lemma Ending.finish_finished {ending : Ending} (h : ending.finish budget = some budget') :
    Finished ending.kind.isModel budget budget' := by
  cases ending with
  | chat success data =>
    simp only [finish, finishWithUsage, Option.ite_none_left_eq_some, Option.some.injEq] at h
    exact h.2 ▸ finishModelAttempt_finished success _ _
  | streamChat success finalPayload =>
    simp only [finish, finishWithUsage, Option.ite_none_left_eq_some, Option.some.injEq] at h
    exact h.2 ▸ finishModelAttempt_finished success _ _
  | embed success =>
    cases h
    exact finishModelAttempt_finished success 0 0
  | post success timedOut =>
    cases h
    exact finishToolAttempt_finished success timedOut
  | manual outcome =>
    cases outcome with
    | returned ok =>
      cases h
      exact finishToolAttempt_finished ok false
    | cancelled =>
      cases h
      have finished : Finished false budget.recordCancellation _ := finishToolAttempt_finished false false
      exact ⟨finished.1, finished.2, finished.3, finished.4, finished.5, finished.6, finished.7⟩
    | timedOut =>
      cases h
      exact finishToolAttempt_finished false true
    | raised =>
      cases h
      exact finishToolAttempt_finished false false
    | exited => cases h

/-- The two ways to leave an attempt uncounted are the only ones. -/
lemma Ending.finish_eq_none {ending : Ending} :
    ending.finish budget = none ↔ ending.Uncounted := by
  cases ending with
  | chat success data => simp [finish, finishWithUsage, Uncounted]
  | streamChat success finalPayload => simp [finish, finishWithUsage, Uncounted]
  | embed success => simp [finish, Uncounted]
  | post success timedOut => simp [finish, Uncounted]
  | manual outcome => cases outcome <;> simp [finish, finishManually, Uncounted]

end Endings

/-- The move is not the uncounted end of an attempt. -/
def MeterMove.Counted : MeterMove → Prop
  | .finish _ ending => ¬ ending.Uncounted
  | _ => True

instance : DecidablePred MeterMove.Counted
  | .finish _ _ => inferInstanceAs (Decidable (¬ _))
  | .enter _ _ | .leave _ | .spawn _ | .attempt _ _ _ | .elsewhere _ => inferInstanceAs (Decidable True)

namespace Metering

/-- The value of the context variable in a task. -/
def valueIn (s : Metering) (task : Nat) : Option ScopeValue := s.tasks[task]?.bind TaskContext.value

/-- The attempts that the task knows of in its scope (source `operation_attempts`), none outside a scope. -/
def operationAttempts (s : Metering) (task : Nat) : Nat := ((s.valueIn task).map ScopeValue.attempts).getD 0

/-- The attempts that were made in the scope of the task, by whichever task. -/
def attemptsMade (s : Metering) (task : Nat) : Nat :=
  ((s.valueIn task).map fun value => s.scopes.getD value.scope 0).getD 0

/-- Beginning an attempt on the meter. -/
def begun (s : Metering) (task : Nat) (kind : AttemptKind) (now : Time) :
    Except BudgetExceeded ExecutionBudget :=
  if kind.isModel then s.budget.beginModelAttempt now (s.operationAttempts task)
  else s.budget.beginToolAttempt now

/-- An attempt more in the scope, which the task counts in its value. -/
def countAttempt (s : Metering) (task : Nat) (context : TaskContext) : Metering :=
  match context.value with
  | none => s
  | some value => { s with
      scopes := s.scopes.set value.scope (s.scopes.getD value.scope 0 + 1)
      tasks := s.tasks.set task { context with value := some { value with attempts := value.attempts + 1 } } }

/-- The state after a move, if it can be made. What is refused changes nothing. -/
def take (s : Metering) : MeterMove → Option Metering
  | .enter task now =>
    match s.tasks[task]? with
    | none => none
    | some context =>
      match s.budget.recordLogicalModelOperation now with
      | .error _ => some s
      | .ok budget => some { s with
          budget
          scopes := s.scopes ++ [0]
          tasks := s.tasks.set task
            { value := some { scope := s.scopes.length }, tokens := context.value :: context.tokens } }
  | .leave task =>
    match s.tasks[task]? with
    | some { tokens := value :: tokens, .. } => some { s with tasks := s.tasks.set task { value, tokens } }
    | _ => none
  | .spawn task =>
    match s.tasks[task]? with
    | none => none
    | some context => some { s with tasks := s.tasks ++ [{ value := context.value }] }
  | .attempt task kind now =>
    match s.tasks[task]? with
    | none => none
    | some context =>
      match s.begun task kind now with
      | .error _ => some s
      | .ok budget =>
        let s' := if kind.isModel then s.countAttempt task context else s
        some { s' with budget, attempts := s.attempts ++ [(kind, .inFlight)] }
  | .finish id ending =>
    if s.attempts[id]? = some (ending.kind, .inFlight) then
      match ending.finish s.budget with
      | some budget => some { s with budget, attempts := s.attempts.set id (ending.kind, .counted) }
      | none => some { s with attempts := s.attempts.set id (ending.kind, .lost) }
    else none
  | .elsewhere state => some { s with
      budget.state :=
        { state with
          physicalModelAttempts := s.budget.state.physicalModelAttempts
          modelSuccesses := s.budget.state.modelSuccesses
          modelFailures := s.budget.state.modelFailures
          fallbackAttempts := s.budget.state.fallbackAttempts
          toolAttempts := s.budget.state.toolAttempts
          toolSuccesses := s.budget.state.toolSuccesses
          toolFailures := s.budget.state.toolFailures } }

/-- The tasks move one at a time. -/
def Step (s : Metering) (move : MeterMove) (s' : Metering) : Prop := s.take move = some s'

/-- A fresh meter, without attempts. -/
def start (now maxDuration : Time) (maxModelCalls maxToolCalls maxVerifierRounds : Nat) : Metering :=
  { budget := .fresh now maxDuration maxModelCalls maxToolCalls maxVerifierRounds }

/-- The attempts on the model server, or on tools, with this status. -/
def number (s : Metering) (model : Bool) (status : AttemptStatus) : Nat :=
  s.attempts.countP fun attempt => attempt.1.isModel = model && attempt.2 = status

/-- The attempts after the first of each scope. -/
def fallbacks (scopes : List Nat) : Nat := (scopes.map fun attempts => attempts - 1).sum

/-- The task knows of no attempt in its scope, but others have made some there. -/
def Behind (s : Metering) (task : Nat) : Prop := s.operationAttempts task = 0 ∧ 0 < s.attemptsMade task

/-- The move is no attempt on the model server, admitted by the meter, of a task that is behind. -/
def InStep (s : Metering) : MeterMove → Prop
  | .attempt task kind now => kind.isModel = true → (s.begun task kind now).isOk = true → ¬ s.Behind task
  | _ => True

instance (s : Metering) : DecidablePred s.InStep
  | .attempt _ _ _ => inferInstanceAs (Decidable (_ → _ → ¬ (_ ∧ _)))
  | .enter _ _ | .leave _ | .spawn _ | .finish _ _ | .elsewhere _ => inferInstanceAs (Decidable True)

/-- What the meter's counters say about the attempts and the scopes, with no more than the limits
    allow; and that a refused attempt changed nothing. -/
structure Conserved (N T : Nat) (events : List (Event Metering MeterMove)) (s : Metering) : Prop where
  modelLimit : s.budget.state.physicalModelAttempts ≤ N
  toolLimit : s.budget.state.toolAttempts ≤ T
  models : s.budget.state.physicalModelAttempts =
    s.budget.state.modelSuccesses + s.budget.state.modelFailures + s.number true .inFlight
  tools : s.budget.state.toolAttempts =
    s.budget.state.toolSuccesses + s.budget.state.toolFailures + s.number false .inFlight
  refused : ∀ e ∈ events, ∀ task kind now exc, e.label = .attempt task kind now →
    e.pre.begun task kind now = .error exc → e.post.budget = e.pre.budget
  fallbacks : s.budget.state.fallbackAttempts = fallbacks s.scopes

/-- A value is of a scope that there is, and knows of no more attempts than were made in it. -/
def Knows (scopes : List Nat) (value : Option ScopeValue) : Prop :=
  ∀ v ∈ value, v.scope < scopes.length ∧ v.attempts ≤ scopes.getD v.scope 0

/-- What holds of every state, with the attempts that were left uncounted. -/
structure Inv (N T : Nat) (s : Metering) : Prop where
  maxModelCalls : s.budget.maxModelCalls = N
  maxToolCalls : s.budget.maxToolCalls = T
  modelLimit : s.budget.state.physicalModelAttempts ≤ N
  toolLimit : s.budget.state.toolAttempts ≤ T
  models : s.budget.state.physicalModelAttempts = s.budget.state.modelSuccesses +
    s.budget.state.modelFailures + s.number true .inFlight + s.number true .lost
  tools : s.budget.state.toolAttempts = s.budget.state.toolSuccesses +
    s.budget.state.toolFailures + s.number false .inFlight + s.number false .lost
  fallbacks : s.budget.state.fallbackAttempts ≤ Metering.fallbacks s.scopes
  known : ∀ context ∈ s.tasks, Knows s.scopes context.value ∧ ∀ value ∈ context.tokens, Knows s.scopes value

variable {s s' : Metering} {events : List (Event Metering MeterMove)} {N T : Nat}

lemma Inv.start (now maxDuration : Time) (N T rounds : Nat) :
    (start now maxDuration N T rounds).Inv N T :=
  ⟨rfl, rfl, Nat.zero_le N, Nat.zero_le T, rfl, rfl, Nat.le_refl 0, by
    rintro context mem
    rw [List.mem_singleton.mp mem]
    exact ⟨nofun, List.forall_mem_nil _⟩⟩

lemma Knows.enter {scopes : List Nat} {value : Option ScopeValue} (knows : Knows scopes value) :
    Knows (scopes ++ [0]) value := by
  intro v mem
  obtain ⟨inside, le⟩ := knows v mem
  refine ⟨?_, ?_⟩
  · rw [List.length_append]
    exact Nat.lt_add_right _ inside
  · rwa [List.getD_eq_getElem?_getD, List.getElem?_append_left inside, ← List.getD_eq_getElem?_getD]

/-- An attempt more in a scope. -/
lemma Knows.count {scopes : List Nat} {value : Option ScopeValue} (knows : Knows scopes value) (scope : Nat) :
    Knows (scopes.set scope (scopes.getD scope 0 + 1)) value := by
  intro v mem
  obtain ⟨inside, le⟩ := knows v mem
  refine ⟨by rwa [List.length_set], ?_⟩
  by_cases same : scope = v.scope
  · subst same
    rw [List.getD_eq_getElem?_getD, List.getElem?_set_self inside]
    exact le.trans (Nat.le_succ _)
  · rwa [List.getD_eq_getElem?_getD, List.getElem?_set_ne same, ← List.getD_eq_getElem?_getD]

/-- An attempt more in a scope is a fallback when it is not the first. -/
lemma fallbacks_count {scopes : List Nat} {scope : Nat} (inside : scope < scopes.length) :
    Metering.fallbacks (scopes.set scope (scopes.getD scope 0 + 1)) =
      Metering.fallbacks scopes + if 0 < scopes.getD scope 0 then 1 else 0 := by
  have found : scopes[scope]? = some (scopes.getD scope 0) := by
    rw [List.getD_eq_getElem?_getD, List.getElem?_eq_getElem inside]
    rfl
  have sum := Counting.sum_set (fun attempts => attempts - 1) found (scopes.getD scope 0 + 1)
  simp only [Metering.fallbacks]
  split <;> omega

/-- What a task knows of was made. -/
lemma Inv.knows (inv : s.Inv N T) (task : Nat) : s.operationAttempts task ≤ s.attemptsMade task := by
  cases found : s.valueIn task with
  | none => simp [operationAttempts, attemptsMade, found]
  | some value =>
    obtain ⟨context, mem, held⟩ := Option.bind_eq_some_iff.mp found
    have known := (inv.known context (List.mem_of_getElem? mem)).1 value held
    simpa [operationAttempts, attemptsMade, found] using known.2

/-- What is counted of an attempt on the model server. -/
structure CountsAttempt (s s' : Metering) (task : Nat) : Prop where
  budget : s'.budget = s.budget
  fallbacks : Metering.fallbacks s'.scopes =
    Metering.fallbacks s.scopes + if 0 < s.attemptsMade task then 1 else 0
  known : ∀ context ∈ s'.tasks, Knows s'.scopes context.value ∧ ∀ value ∈ context.tokens, Knows s'.scopes value

lemma Inv.countAttempt {task : Nat} {context : TaskContext} (inv : s.Inv N T)
    (found : s.tasks[task]? = some context) : CountsAttempt s (s.countAttempt task context) task := by
  have valueIn : s.valueIn task = context.value := by rw [Metering.valueIn, found, Option.bind_some]
  unfold Metering.countAttempt
  split
  · next none =>
    rw [none] at valueIn
    exact ⟨rfl, by simp [attemptsMade, valueIn], inv.known⟩
  · next value held =>
    rw [held] at valueIn
    have own := inv.known context (List.mem_of_getElem? found)
    obtain ⟨inside, le⟩ := own.1 value held
    refine ⟨rfl, ?_, ?_⟩
    · simp only [attemptsMade, valueIn, Option.map_some, Option.getD_some]
      exact fallbacks_count inside
    · intro other mem
      obtain mem | rfl := List.mem_or_eq_of_mem_set mem
      · have known := inv.known other mem
        exact ⟨known.1.count _, fun value mem => (known.2 value mem).count _⟩
      · refine ⟨?_, fun value mem => (own.2 value mem).count _⟩
        rintro _ ⟨⟩
        refine ⟨by rwa [List.length_set], ?_⟩
        rw [List.getD_eq_getElem?_getD, List.getElem?_set_self inside]
        exact Nat.succ_le_succ le

/-- An attempt more, in flight. -/
lemma number_concat {kind : AttemptKind} (begun : s'.attempts = s.attempts ++ [(kind, .inFlight)])
    (model : Bool) (status : AttemptStatus) : s'.number model status =
      s.number model status + (decide (kind.isModel = model) && decide (.inFlight = status)).toNat := by
  rw [number, begun]
  exact Counting.countP_concat _ _ _

/-- An attempt in flight ends. -/
lemma number_set {id : Nat} {kind : AttemptKind} (found : s.attempts[id]? = some (kind, .inFlight))
    (model : Bool) (status status' : AttemptStatus) (budget : ExecutionBudget) :
    number { s with budget, attempts := s.attempts.set id (kind, status') } model status +
        (decide (kind.isModel = model) && decide (.inFlight = status)).toNat =
      s.number model status + (decide (kind.isModel = model) && decide (status' = status)).toNat :=
  Counting.countP_set _ found _

/-- What entering a scope does, unless the meter refuses it. -/
lemma enter_cases {task : Nat} {now : Time} (st : Step s (.enter task now) s') :
    s' = s ∨ ∃ context budget, s.tasks[task]? = some context ∧
      s.budget.recordLogicalModelOperation now = .ok budget ∧
      s' = { s with
        budget
        scopes := s.scopes ++ [0]
        tasks := s.tasks.set task
          { value := some { scope := s.scopes.length }, tokens := context.value :: context.tokens } } := by
  simp only [Step, take] at st
  split at st
  · cases st
  · next context found =>
    split at st
    · exact .inl (Option.some.inj st).symm
    · next budget opened => exact .inr ⟨context, budget, found, opened, (Option.some.inj st).symm⟩

/-- What leaving a scope does. -/
lemma leave_cases {task : Nat} (st : Step s (.leave task) s') :
    ∃ old value tokens, s.tasks[task]? = some { value := old, tokens := value :: tokens } ∧
      s' = { s with tasks := s.tasks.set task { value, tokens } } := by
  simp only [Step, take] at st
  split at st
  · next old value tokens found => exact ⟨old, value, tokens, found, (Option.some.inj st).symm⟩
  · cases st

/-- What spawning a task does. -/
lemma spawn_cases {task : Nat} (st : Step s (.spawn task) s') :
    ∃ context, s.tasks[task]? = some context ∧
      s' = { s with tasks := s.tasks ++ [{ value := context.value }] } := by
  simp only [Step, take] at st
  split at st
  · cases st
  · next context found => exact ⟨context, found, (Option.some.inj st).symm⟩

/-- What the end of an attempt does. -/
lemma finish_cases {id : Nat} {ending : Ending} (st : Step s (.finish id ending) s') :
    s.attempts[id]? = some (ending.kind, .inFlight) ∧
      ((∃ budget, ending.finish s.budget = some budget ∧
        s' = { s with budget, attempts := s.attempts.set id (ending.kind, .counted) }) ∨
      ending.Uncounted ∧ s' = { s with attempts := s.attempts.set id (ending.kind, .lost) }) := by
  simp only [Step, take] at st
  split at st
  · next found =>
    refine ⟨found, ?_⟩
    split at st
    · next budget finish => exact .inl ⟨budget, finish, (Option.some.inj st).symm⟩
    · next lost => exact .inr ⟨Ending.finish_eq_none.mp lost, (Option.some.inj st).symm⟩
  · cases st

/-- What an attempt that is begun does. -/
lemma attempt_cases {task : Nat} {kind : AttemptKind} {now : Time} (inv : s.Inv N T)
    (st : Step s (.attempt task kind now) s') :
    ((s.begun task kind now).isOk = false ∧ s' = s) ∨
      ∃ budget, s.begun task kind now = .ok budget ∧ s'.budget = budget ∧
        s'.attempts = s.attempts ++ [(kind, .inFlight)] ∧
        (∀ context ∈ s'.tasks, Knows s'.scopes context.value ∧
          ∀ value ∈ context.tokens, Knows s'.scopes value) ∧
        Metering.fallbacks s'.scopes =
          Metering.fallbacks s.scopes + if kind.isModel && 0 < s.attemptsMade task then 1 else 0 := by
  simp only [Step, take] at st
  split at st
  · cases st
  · next context found =>
    split at st
    · next exc refused =>
      cases st
      exact .inl ⟨by rw [refused]; rfl, rfl⟩
    · next budget started =>
      cases st
      refine .inr ⟨budget, started, rfl, rfl, ?_⟩
      cases kind.isModel with
      | true =>
        have counts := inv.countAttempt found
        exact ⟨counts.known, by simpa using counts.fallbacks⟩
      | false => exact ⟨inv.known, by simp⟩

/-- A context of a task is replaced. -/
lemma Inv.knownSet {scopes : List Nat} {task : Nat} {context : TaskContext} (inv : s.Inv N T)
    (grows : ∀ value, Knows s.scopes value → Knows scopes value)
    (own : Knows scopes context.value ∧ ∀ value ∈ context.tokens, Knows scopes value) :
    ∀ other ∈ s.tasks.set task context, Knows scopes other.value ∧
      ∀ value ∈ other.tokens, Knows scopes value := by
  intro other mem
  obtain mem | rfl := List.mem_or_eq_of_mem_set mem
  · have known := inv.known other mem
    exact ⟨grows _ known.1, fun value mem => grows _ (known.2 value mem)⟩
  · exact own

lemma Inv.enter {task : Nat} {now : Time} (inv : s.Inv N T) (st : Step s (.enter task now) s') : s'.Inv N T := by
  obtain rfl | ⟨context, budget, found, opened, rfl⟩ := enter_cases st
  · exact inv
  · cases ExecutionBudget.recordLogicalModelOperation_ok opened
    have own := inv.known context (List.mem_of_getElem? found)
    refine ⟨inv.1, inv.2, inv.3, inv.4, inv.5, inv.6, inv.7.trans ?_, ?_⟩
    · simp [Metering.fallbacks]
    · refine inv.knownSet (fun value knows => knows.enter) ⟨?_, ?_⟩
      -- the new scope has no attempt yet
      · rintro _ ⟨⟩
        exact ⟨by simp, Nat.zero_le _⟩
      · intro value mem
        rcases List.mem_cons.mp mem with rfl | mem
        · exact own.1.enter
        · exact (own.2 value mem).enter

lemma Inv.leave {task : Nat} (inv : s.Inv N T) (st : Step s (.leave task) s') : s'.Inv N T := by
  obtain ⟨old, value, tokens, found, rfl⟩ := leave_cases st
  have own := (inv.known _ (List.mem_of_getElem? found)).2
  refine ⟨inv.1, inv.2, inv.3, inv.4, inv.5, inv.6, inv.7, ?_⟩
  exact inv.knownSet (fun value knows => knows)
    ⟨own value (.head _), fun other mem => own other (.tail _ mem)⟩

lemma Inv.spawn {task : Nat} (inv : s.Inv N T) (st : Step s (.spawn task) s') : s'.Inv N T := by
  obtain ⟨context, found, rfl⟩ := spawn_cases st
  have own := inv.known context (List.mem_of_getElem? found)
  refine ⟨inv.1, inv.2, inv.3, inv.4, inv.5, inv.6, inv.7, ?_⟩
  intro other mem
  rcases List.mem_append.mp mem with mem | mem
  · exact inv.known other mem
  · rw [List.mem_singleton.mp mem]
    exact ⟨own.1, List.forall_mem_nil _⟩

lemma Inv.attempt {task : Nat} {kind : AttemptKind} {now : Time} (inv : s.Inv N T)
    (st : Step s (.attempt task kind now) s') : s'.Inv N T := by
  obtain ⟨-, rfl⟩ | ⟨budget, started, same, begun, known, more⟩ := attempt_cases inv st
  · exact inv
  · have models := inv.models
    have tools := inv.tools
    have fallbacks := inv.fallbacks
    have knows := inv.knows task
    have limit := inv.maxModelCalls
    have limit' := inv.maxToolCalls
    -- one side of the meter has an attempt more, the other one is as it was
    cases model : kind.isModel with
    | true =>
      simp only [Metering.begun, model, if_true] at started
      obtain ⟨below, rfl⟩ := ExecutionBudget.beginModelAttempt_ok started
      rw [model] at more
      refine ⟨?_, ?_, ?_, ?_, ?_, ?_, ?_, known⟩
      · rw [same]
        exact inv.1
      · rw [same]
        exact inv.2
      · rw [same]
        dsimp only
        omega
      · rw [same]
        exact inv.4
      · rw [same]
        simp only [number_concat begun, model]
        simp
        omega
      · rw [same]
        simp only [number_concat begun, model]
        simpa using tools
      · rw [same, more]
        simp only [Bool.true_and, decide_eq_true_eq]
        split <;> split <;> omega
    | false =>
      simp only [Metering.begun, model, Bool.false_eq_true, if_false] at started
      obtain ⟨below, rfl⟩ := ExecutionBudget.beginToolAttempt_ok started
      rw [model] at more
      refine ⟨?_, ?_, ?_, ?_, ?_, ?_, ?_, known⟩
      · rw [same]
        exact inv.1
      · rw [same]
        exact inv.2
      · rw [same]
        exact inv.3
      · rw [same]
        dsimp only
        omega
      · rw [same]
        simp only [number_concat begun, model]
        simpa using models
      · rw [same]
        simp only [number_concat begun, model]
        simp
        omega
      · rw [same, more]
        simpa using fallbacks

lemma Inv.finish {id : Nat} {ending : Ending} (inv : s.Inv N T) (st : Step s (.finish id ending) s') :
    s'.Inv N T := by
  have models := inv.models
  have tools := inv.tools
  obtain ⟨found, ⟨budget, finish, rfl⟩ | ⟨-, rfl⟩⟩ := finish_cases st
  · have set := number_set found
    have finished := Ending.finish_finished finish
    have m1 := set true .inFlight .counted budget
    have m2 := set true .lost .counted budget
    have t1 := set false .inFlight .counted budget
    have t2 := set false .lost .counted budget
    have fm := finished.models
    have ft := finished.tools
    have limit := inv.modelLimit
    have limit' := inv.toolLimit
    rw [← finished.physicalModelAttempts] at limit
    rw [← finished.toolAttempts] at limit'
    refine ⟨finished.1.trans inv.1, finished.2.trans inv.2, limit, limit', ?_, ?_,
      finished.5.trans_le inv.7, inv.8⟩
    · rw [finished.physicalModelAttempts]
      dsimp only
      cases model : ending.kind.isModel <;> simp [model] at m1 m2 fm <;> omega
    · rw [finished.toolAttempts]
      dsimp only
      cases model : ending.kind.isModel <;> simp [model] at t1 t2 ft <;> omega
  -- what is not counted is no more in flight, and lost
  · have set := number_set found
    have m1 := set true .inFlight .lost s.budget
    have m2 := set true .lost .lost s.budget
    have t1 := set false .inFlight .lost s.budget
    have t2 := set false .lost .lost s.budget
    refine ⟨inv.1, inv.2, inv.3, inv.4, ?_, ?_, inv.7, inv.8⟩
    · dsimp only
      cases model : ending.kind.isModel <;> simp [model] at m1 m2 <;> omega
    · dsimp only
      cases model : ending.kind.isModel <;> simp [model] at t1 t2 <;> omega

/-- Every move keeps the invariant. -/
lemma Inv.step {move : MeterMove} (inv : s.Inv N T) (st : Step s move s') : s'.Inv N T := by
  cases move with
  | enter task now => exact inv.enter st
  | leave task => exact inv.leave st
  | spawn task => exact inv.spawn st
  | attempt task kind now => exact inv.attempt st
  | finish id ending => exact inv.finish st
  | elsewhere state =>
    cases st
    exact ⟨inv.1, inv.2, inv.3, inv.4, inv.5, inv.6, inv.7, inv.8⟩

/-- No attempt was left uncounted. -/
def NoneLost (s : Metering) : Prop := s.number true .lost = 0 ∧ s.number false .lost = 0

/-- An attempt is lost by a move exactly when its end is not counted. -/
lemma noneLost_step {move : MeterMove} (inv : s.Inv N T) (st : Step s move s') :
    s'.NoneLost ↔ s.NoneLost ∧ move.Counted := by
  cases move with
  | enter task now =>
    obtain rfl | ⟨context, budget, -, -, rfl⟩ := enter_cases st
    · simp [MeterMove.Counted]
    · simp [NoneLost, number, MeterMove.Counted]
  | leave task =>
    obtain ⟨old, value, tokens, -, rfl⟩ := leave_cases st
    simp [NoneLost, number, MeterMove.Counted]
  | spawn task =>
    obtain ⟨context, -, rfl⟩ := spawn_cases st
    simp [NoneLost, number, MeterMove.Counted]
  | attempt task kind now =>
    obtain ⟨-, rfl⟩ | ⟨budget, -, -, begun, -⟩ := attempt_cases inv st
    · simp [MeterMove.Counted]
    · simp [NoneLost, number_concat begun, MeterMove.Counted]
  | finish id ending =>
    obtain ⟨found, ⟨budget, finish, rfl⟩ | ⟨uncounted, rfl⟩⟩ := finish_cases st
    · have counted : ¬ ending.Uncounted := by
        rw [← Ending.finish_eq_none, finish]
        nofun
      have m := number_set found true .lost .counted budget
      have t := number_set found false .lost .counted budget
      simp only [NoneLost, MeterMove.Counted, counted, not_false_eq_true, and_true]
      simp at m t
      rw [m, t]
    · have m := number_set found true .lost .lost s.budget
      have t := number_set found false .lost .lost s.budget
      simp only [NoneLost, MeterMove.Counted, uncounted, not_true_eq_false, and_false, iff_false, not_and]
      cases model : ending.kind.isModel <;> simp [model] at m t <;> omega
  | elsewhere state =>
    cases st
    simp [NoneLost, number, MeterMove.Counted]

/-- The fallbacks are those of the scopes. -/
def FallbacksCounted (s : Metering) : Prop := s.budget.state.fallbackAttempts = Metering.fallbacks s.scopes

/-- A fallback is missed by a move exactly when the task of an attempt is behind. -/
lemma fallbacksCounted_step {move : MeterMove} (inv : s.Inv N T) (st : Step s move s') :
    s'.FallbacksCounted ↔ s.FallbacksCounted ∧ s.InStep move := by
  cases move with
  | enter task now =>
    obtain rfl | ⟨context, budget, -, opened, rfl⟩ := enter_cases st
    · exact (and_iff_left trivial).symm
    · cases ExecutionBudget.recordLogicalModelOperation_ok opened
      simp [FallbacksCounted, Metering.fallbacks, InStep]
  | leave task =>
    obtain ⟨old, value, tokens, -, rfl⟩ := leave_cases st
    exact (and_iff_left trivial).symm
  | spawn task =>
    obtain ⟨context, -, rfl⟩ := spawn_cases st
    exact (and_iff_left trivial).symm
  | attempt task kind now =>
    obtain ⟨refused, rfl⟩ | ⟨budget, started, same, -, -, more⟩ := attempt_cases inv st
    · refine (and_iff_left fun _ admitted => ?_).symm
      rw [refused] at admitted
      cases admitted
    · rw [FallbacksCounted, FallbacksCounted, InStep, same, more, started]
      have behind := inv.fallbacks
      have knows := inv.knows task
      cases model : kind.isModel with
      | true =>
        simp only [Metering.begun, model, if_true] at started
        obtain ⟨-, rfl⟩ := ExecutionBudget.beginModelAttempt_ok started
        simp only [Bool.true_and, decide_eq_true_eq, Behind, Except.isOk, Except.toBool, forall_const]
        split <;> split <;> omega
      | false =>
        simp only [Metering.begun, model, Bool.false_eq_true, if_false] at started
        obtain ⟨-, rfl⟩ := ExecutionBudget.beginToolAttempt_ok started
        simp
  | finish id ending =>
    obtain ⟨-, ⟨budget, finish, rfl⟩ | ⟨-, rfl⟩⟩ := finish_cases st
    · simp [FallbacksCounted, InStep, (Ending.finish_finished finish).fallbackAttempts]
    · exact (and_iff_left trivial).symm
  | elsewhere state =>
    cases st
    exact (and_iff_left trivial).symm

/-- In a run, an attempt is lost or a fallback missed exactly when the end of an attempt was not counted or
    the task of one was behind. -/
lemma counted_run (run : Run Step s events s') (inv : s.Inv N T) (none : s.NoneLost)
    (fallbacks : s.FallbacksCounted) :
    s'.NoneLost ∧ s'.FallbacksCounted ↔ ∀ e ∈ events, e.label.Counted ∧ e.pre.InStep e.label := by
  refine (run.invariant_history (I := fun past s' => s'.Inv N T ∧
    (s'.NoneLost ∧ s'.FallbacksCounted ↔ ∀ e ∈ past, e.label.Counted ∧ e.pre.InStep e.label))
    ?_ ⟨inv, by simp [none, fallbacks]⟩).2
  rintro past e st ⟨inv, ih⟩
  refine ⟨inv.step st, ?_⟩
  rw [noneLost_step inv st, fallbacksCounted_step inv st, and_and_and_comm, ih,
    List.forall_mem_append, List.forall_mem_singleton]

/-- In whatever order attempts are begun and end, each side of the meter adds up, the limits hold, what
    is refused changes nothing, and every scope adds its attempts after the first to the fallbacks,
    exactly as long as every end of an attempt is counted, and no task begins the first attempt that it knows
    of in a scope in which others have made one. -/
theorem meter_conserved_iff {now maxDuration : Time} {rounds : Nat}
    (run : Run Step (start now maxDuration N T rounds) events s) :
    Conserved N T events s ↔ ∀ e ∈ events, e.label.Counted ∧ e.pre.InStep e.label := by
  have begins : (start now maxDuration N T rounds).Inv N T := .start now maxDuration N T rounds
  have inv : s.Inv N T := run.invariant (G := fun _ => True) (fun _ st _ inv => inv.step st)
    (fun _ _ => trivial) begins
  rw [← counted_run run begins ⟨rfl, rfl⟩ rfl]
  have models := inv.models
  have tools := inv.tools
  constructor
  · intro conserved
    have models' := conserved.models
    have tools' := conserved.tools
    exact ⟨⟨by omega, by omega⟩, conserved.fallbacks⟩
  · rintro ⟨⟨noModel, noTool⟩, fallbacks⟩
    refine ⟨inv.modelLimit, inv.toolLimit, by omega, by omega, ?_, fallbacks⟩
    intro e mem task kind now exc attempt refused
    have st := run.step_of_mem mem
    rw [attempt] at st
    simp only [Step, take, refused] at st
    split at st
    · cases st
    · rw [Option.some.inj st]

section Samples

/-- A meter with the default limits. -/
def sampleMeter : Metering := start 0 (seconds 180) 8 10 3

/-- A model operation whose first answer does not validate, and whose fallback is made by another task, which
    also calls a tool; then an attempt of the next operation is begun. -/
def sampleAttempts : List MeterMove :=
  [.enter 0 0, .attempt 0 .chat 1, .spawn 0, .attempt 1 .post 2,
    .finish 0 (.chat true [("eval_count", .int 7)]), .attempt 1 .chat 3, .finish 1 (.post false true),
    .finish 2 (.chat false []), .leave 0, .enter 0 4, .attempt 0 .chat 5]

theorem meter_conserved_sample :
    Conserved 8 10 (play take sampleMeter sampleAttempts).1 (play take sampleMeter sampleAttempts).2 := by
  have run := play_run (by decide +kernel : possible take sampleMeter sampleAttempts = true)
  exact (meter_conserved_iff run).mpr (by decide +kernel)

/-- Two tasks that are spawned in a scope, and each make an attempt there. -/
def gatheredAttempts : List MeterMove :=
  [.enter 0 0, .spawn 0, .spawn 0, .attempt 1 .chat 1, .attempt 2 .chat 1]

/-- Neither of them counts as a fallback. -/
example : (play take sampleMeter gatheredAttempts).2.budget.state.fallbackAttempts = 0 ∧
    fallbacks (play take sampleMeter gatheredAttempts).2.scopes = 1 := by decide +kernel

/-- An answer of the model server with a load duration that no float can hold. -/
def overlongAnswer : JsonObject :=
  [("message", .obj [("content", .str "hello")]), ("load_duration", .int (10 ^ 400))]

/-- One call of the model server with that answer. -/
def overlongAttempt : List MeterMove := [.attempt 0 .chat 1, .finish 0 (.chat true overlongAnswer)]

theorem meter_not_conserved :
    ¬ ∀ events s, Run Step sampleMeter events s → Conserved 8 10 events s := by
  intro all
  have run := play_run (by decide +kernel : possible take sampleMeter overlongAttempt = true)
  have counts : (play take sampleMeter overlongAttempt).2.budget.state.physicalModelAttempts = 1 ∧
      (play take sampleMeter overlongAttempt).2.budget.state.modelSuccesses = 0 ∧
      (play take sampleMeter overlongAttempt).2.budget.state.modelFailures = 0 ∧
      (play take sampleMeter overlongAttempt).2.number true .inFlight = 0 := by decide +kernel
  have models := (all _ _ run).models
  omega

end Samples

end Metering

end AgentRuntime.Orchestration
