import AgentRuntime.Lib.Run
import AgentRuntime.State.RunRecord
import Mathlib.Logic.Function.Basic

/-!
# The run repository interface

Port of the abstract class `RunRepository` of `state/run_repository.py`: its methods over a state
type, each with the instant that the repository's clock shows during the call, and the calls as data
so that a history of calls is a list. A method returns its result or raises, and leaves a state.

`Contract` is what both implementations promise to a caller, in terms of three views of the state:
the record of a run, the last fencing token of a conversation, and whether `mark_terminal` would take
effect. It says for each method everything that the method can do to these views.
-/

namespace AgentRuntime.State
open Transition

/-- What a repository method does: it returns or raises, and leaves a state. -/
abbrev Effect (σ α : Type) := Except RepositoryError α × σ

/-- The keyword arguments of `mark_terminal`. -/
structure Outcome where
  status : OutcomeStatus
  responsePayload : Option JsonObject
  terminationReason : Option String
  errorCode : Option String
  checkpointId : Option String := none

/-- Durable authority for run ownership, outcomes, and replay (source `RunRepository`). -/
structure RunRepository (σ : Type) where
  createOrGet (now : Time) (identity : RunIdentity) : σ → Effect σ (RunRecord × Bool)
  get (runId : String) : σ → Effect σ (Option RunRecord)
  acquire (now : Time) (identity : RunIdentity) (ownerId : String) (ttlSeconds : Int) :
    σ → Effect σ RunLease
  renew (now : Time) (lease : RunLease) (ttlSeconds : Int) : σ → Effect σ RunLease
  release (now : Time) (lease : RunLease) : σ → Effect σ Unit
  markTerminal (now : Time) (lease : RunLease) (outcome : Outcome) : σ → Effect σ RunRecord
  markHistoryCommitted (now : Time) (lease : RunLease) (responsePayload : Option JsonObject) :
    σ → Effect σ RunRecord
  reconcileHistoryCommitted (now : Time) (runId : String) (responsePayload : Option JsonObject) :
    σ → Effect σ RunRecord
  revokeResumeTokens (now : Time) (runId : String) : σ → Effect σ Nat

/-- One method call with its arguments. -/
inductive Call where
  | createOrGet (identity : RunIdentity)
  | get (runId : String)
  | acquire (identity : RunIdentity) (ownerId : String) (ttlSeconds : Int)
  | renew (lease : RunLease) (ttlSeconds : Int)
  | release (lease : RunLease)
  | markTerminal (lease : RunLease) (outcome : Outcome)
  | markHistoryCommitted (lease : RunLease) (responsePayload : Option JsonObject)
  | reconcileHistoryCommitted (runId : String) (responsePayload : Option JsonObject)
  | revokeResumeTokens (runId : String)

/-- What a call hands back to its caller. -/
inductive Reply where
  | record (record : RunRecord) (created : Bool)
  | found (record : Option RunRecord)
  | lease (lease : RunLease)
  | done
  | updated (record : RunRecord)
  | version (version : Nat)
  | raised (error : RepositoryError)

/-- The reply of an effect, with `f` for the value that it returns. -/
def Effect.reply {σ α : Type} (f : α → Reply) (e : Effect σ α) : Reply × σ :=
  match e.1 with
  | .ok a => (f a, e.2)
  | .error error => (.raised error, e.2)

@[simp] lemma Effect.reply_snd {σ α : Type} (f : α → Reply) (e : Effect σ α) :
    (e.reply f).2 = e.2 := by
  simp only [Effect.reply]
  split <;> rfl

/-- Run one call at an instant. -/
def RunRepository.exec {σ : Type} (repo : RunRepository σ) (now : Time) (call : Call) (s : σ) :
    Reply × σ :=
  match call with
  | .createOrGet identity =>
    (repo.createOrGet now identity s).reply fun (record, created) => .record record created
  | .get runId => (repo.get runId s).reply .found
  | .acquire identity ownerId ttlSeconds =>
    (repo.acquire now identity ownerId ttlSeconds s).reply .lease
  | .renew lease ttlSeconds => (repo.renew now lease ttlSeconds s).reply .lease
  | .release lease => (repo.release now lease s).reply fun _ => .done
  | .markTerminal lease outcome => (repo.markTerminal now lease outcome s).reply .updated
  | .markHistoryCommitted lease payload =>
    (repo.markHistoryCommitted now lease payload s).reply .updated
  | .reconcileHistoryCommitted runId payload =>
    (repo.reconcileHistoryCommitted now runId payload s).reply .updated
  | .revokeResumeTokens runId => (repo.revokeResumeTokens now runId s).reply .version

/-- The lease that a call is made under, for the calls that need it in force. -/
def Call.underLease : Call → Option RunLease
  | .renew lease _ => some lease
  | .markTerminal lease _ => some lease
  | .markHistoryCommitted lease _ => some lease
  | _ => none

/-- A call and the instant it is made at. -/
structure TimedCall where
  now : Time
  call : Call

namespace RunRepository

variable {σ : Type} (repo : RunRepository σ)

/-- One call of a history, on a clock that does not go back and the repository's state. -/
def Step (s : Time × σ) (timed : TimedCall) (s' : Time × σ) : Prop :=
  s.1 ≤ timed.now ∧ s' = (timed.now, (repo.exec timed.now timed.call s.2).2)

/-- The reply to the call of an event. -/
def reply (e : Event (Time × σ) TimedCall) : Reply :=
  (repo.exec e.label.now e.label.call e.pre.2).1

/-- The clock and the state after a list of calls. -/
def after (s : Time × σ) : List TimedCall → Time × σ
  | [] => s
  | timed :: calls => after (timed.now, (repo.exec timed.now timed.call s.2).2) calls

/-- The events of a list of calls. -/
def history (s : Time × σ) : List TimedCall → List (Event (Time × σ) TimedCall)
  | [] => []
  | timed :: calls =>
    let s' := (timed.now, (repo.exec timed.now timed.call s.2).2)
    ⟨s, timed, s'⟩ :: history s' calls

/-- A list of calls at instants that do not go back is a run. -/
lemma run_history (s : Time × σ) (calls : List TimedCall)
    (ordered : (s.1 :: calls.map TimedCall.now).Pairwise (· ≤ ·)) :
    Run repo.Step s (repo.history s calls) (repo.after s calls) := by
  induction calls generalizing s with
  | nil => exact .nil
  | cons timed calls ih =>
    rw [List.map_cons, List.pairwise_cons] at ordered
    exact .cons ⟨ordered.1 _ (.head _), rfl⟩ (ih _ ordered.2)

end RunRepository

/-- The record that `acquire` leaves for the run it starts. -/
def RunRecord.acquired (record : RunRecord) (lease : RunLease) (now : Time) : RunRecord :=
  { record with
    status := .running
    fencingToken := some lease.fencingToken
    leaseOwner := some lease.ownerId
    leaseExpiresAt := some lease.expiresAt
    startedAt := some (record.startedAt.getD now)
    updatedAt := some now }

/-- The record that `renew` leaves. -/
def RunRecord.renewed (record : RunRecord) (expiresAt now : Time) : RunRecord :=
  { record with leaseExpiresAt := some expiresAt, updatedAt := some now }

/-- The record that `mark_terminal` leaves, with the payload as the repository keeps it. -/
def RunRecord.withOutcome (record : RunRecord) (outcome : Outcome) (payload : Option JsonObject)
    (now : Time) : RunRecord :=
  { record with
    status := outcome.status.toRunStatus
    responsePayload := payload
    terminationReason := outcome.terminationReason
    errorCode := outcome.errorCode
    checkpointId := outcome.checkpointId
    completedAt := if outcome.status.toRunStatus ∈ terminalStatuses then some now else none
    updatedAt := some now }

/-- The record that committing the history leaves. -/
def RunRecord.historyCommitted (record : RunRecord) (payload : Option JsonObject)
    (committedAt now : Time) : RunRecord :=
  { record with
    responsePayload := payload
    historyCommittedAt := some committedAt
    updatedAt := some now }

/-- What a repository keeps of a payload it was given: nothing of no payload, and the same object of
    one that is not empty. -/
structure Keeps (given kept : Option JsonObject) : Prop where
  none : given = none → kept = none
  object : ∀ object, given = some object → object ≠ [] →
    ∃ object', kept = some object' ∧ Json.Same (.obj object) (.obj object')

lemma Keeps.refl (payload : Option JsonObject) : Keeps payload payload where
  none h := h
  object object h _ := ⟨object, h, .refl _⟩

/-- What a repository promises its callers, whichever backend it has. Runs are told apart by `key`,
    since a database compares run ids as UUIDs and not as text. -/
structure Contract {σ : Type} (repo : RunRepository σ) where
  /-- the key that a run id names -/
  key : String → String
  /-- the record of a run -/
  record : σ → String → Option RunRecord
  /-- the last fencing token handed out for a conversation, 0 before the first -/
  token : σ → String → Nat
  /-- `mark_terminal` takes effect -/
  takes : σ → Time → RunLease → Outcome → Prop
  /-- what holds of every state that calls lead to -/
  inv : σ → Prop
  inv_exec {now call s} : inv s → inv (repo.exec now call s).2
  createOrGet_spec {now identity s result s'} :
    repo.createOrGet now identity s = (result, s') →
      (∃ error, result = .error error ∧ s' = s ∧ (error = .database ∨
        ∀ r, record s (key identity.runId) = some r → ¬ r.Matches identity)) ∨
      (∃ r, record s (key identity.runId) = some r ∧ r.Matches identity ∧
        result = .ok (r, false) ∧ s' = s) ∨
      (∃ r, record s (key identity.runId) = none ∧ r.Matches identity ∧ r.status = .pending ∧
        r.responsePayload = none ∧ result = .ok (r, true) ∧
        record s' = Function.update (record s) (key identity.runId) (some r) ∧
        token s' = token s)
  get_spec {runId s result s'} :
    repo.get runId s = (result, s') →
      s' = s ∧ ((∃ error, result = .error error) ∨ result = .ok (record s (key runId)))
  acquire_spec {now identity ownerId ttlSeconds s result s'} :
    repo.acquire now identity ownerId ttlSeconds s = (result, s') →
      (∃ error, result = .error error ∧ s' = s) ∨
      (∃ r lease, record s (key identity.runId) = some r ∧ result = .ok lease ∧
        key lease.runId = key identity.runId ∧ lease.conversationId = identity.conversationId ∧
        lease.fencingToken = token s identity.conversationId + 1 ∧
        record s' = Function.update (record s) (key identity.runId) (some (r.acquired lease now)) ∧
        token s' = Function.update (token s) identity.conversationId lease.fencingToken)
  renew_spec {now lease ttlSeconds s result s'} :
    repo.renew now lease ttlSeconds s = (result, s') →
      ((∃ error, result = .error error) ∧ record s' = record s ∧ token s' = token s) ∨
      (∃ expiresAt, result = .ok { lease with expiresAt } ∧ token s' = token s ∧
        ∀ k, record s' k = record s k ∨
          ∃ r, record s k = some r ∧ record s' k = some (r.renewed expiresAt now))
  release_spec {now lease s result s'} :
    repo.release now lease s = (result, s') →
      record s' = record s ∧ token s' = token s
  markTerminal_spec {now lease outcome s result s'} :
    repo.markTerminal now lease outcome s = (result, s') →
      (¬ takes s now lease outcome ∧ (∃ error, result = .error error) ∧ s' = s) ∨
      (takes s now lease outcome ∧ ∃ r payload, record s (key lease.runId) = some r ∧
        Keeps outcome.responsePayload payload ∧
        result = .ok (r.withOutcome outcome payload now) ∧
        record s' = Function.update (record s) (key lease.runId)
          (some (r.withOutcome outcome payload now)) ∧
        token s' = token s)
  takes_fenced {s now lease outcome r} :
    inv s → takes s now lease outcome → record s (key lease.runId) = some r →
      r.conversationId = lease.conversationId →
      token s lease.conversationId = lease.fencingToken
  markHistoryCommitted_spec {now lease payload s result s'} :
    repo.markHistoryCommitted now lease payload s = (result, s') →
      (∃ error, result = .error error ∧ s' = s) ∨
      (∃ r kept committedAt, record s (key lease.runId) = some r ∧
        (payload = none → kept = r.responsePayload) ∧ (payload ≠ none → Keeps payload kept) ∧
        result = .ok (r.historyCommitted kept committedAt now) ∧
        record s' = Function.update (record s) (key lease.runId)
          (some (r.historyCommitted kept committedAt now)) ∧
        token s' = token s)
  reconcileHistoryCommitted_spec {now runId payload s result s'} :
    repo.reconcileHistoryCommitted now runId payload s = (result, s') →
      (∃ error, result = .error error ∧ s' = s ∧ (error = .database ∨
        ∀ r, record s (key runId) = some r → r.status ≠ .completed ∧ r.status ≠ .failed)) ∨
      (∃ r kept committedAt, record s (key runId) = some r ∧
        (payload = none → kept = r.responsePayload) ∧ (payload ≠ none → Keeps payload kept) ∧
        result = .ok (r.historyCommitted kept committedAt now) ∧
        record s' = Function.update (record s) (key runId)
          (some (r.historyCommitted kept committedAt now)) ∧
        token s' = token s)
  revokeResumeTokens_spec {now runId s result s'} :
    repo.revokeResumeTokens now runId s = (result, s') →
      (∃ error, result = .error error ∧ s' = s) ∨
      (∃ r, record s (key runId) = some r ∧ result = .ok (r.resumeTokenVersion + 1) ∧
        record s' = Function.update (record s) (key runId)
          (some { r with resumeTokenVersion := r.resumeTokenVersion + 1, updatedAt := some now }) ∧
        token s' = token s)

/-- A run repository with its contract. -/
structure Store where
  σ : Type
  repo : RunRepository σ
  contract : Contract repo
  empty : σ
  empty_inv : contract.inv empty
  empty_record : ∀ k, contract.record empty k = none
  empty_token : ∀ c, contract.token empty c = 0

end AgentRuntime.State
