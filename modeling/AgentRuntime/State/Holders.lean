import AgentRuntime.State.Store

/-!
# Who holds a conversation

The lease that a repository stores for every conversation, as a grant to a run with a token and an
expiry. `Tenure` is everything that one call can do to these grants: a grant is taken over when it has
lapsed, extended while it runs, and ended by the lease that it was granted to. Both repositories show
their leases in this way.
-/

namespace AgentRuntime.State
open Fencing (Grant)

/-- What a call does to the grants of the conversations. -/
inductive Tenure (key : String → String) (last : String → Nat) (now : Time) (call : Call)
    (held held' : String → Option (Grant String Time)) : Prop where
  | same :
    held' = held →
    Tenure key last now call held held'
  | granted {identity ownerId ttlSeconds expires} :
    call = .acquire identity ownerId ttlSeconds →
    (∀ g, held identity.conversationId = some g → g.expires ≤ now) →
    held' = Function.update held identity.conversationId
      (some ⟨key identity.runId, last identity.conversationId + 1, expires⟩) →
    Tenure key last now call held held'
  | extended {lease ttlSeconds expires} {g : Grant String Time} :
    call = .renew lease ttlSeconds →
    held lease.conversationId = some g →
    g.token = lease.fencingToken →
    held' = Function.update held lease.conversationId (some { g with expires }) →
    Tenure key last now call held held'
  | ended {lease g'} {g : Grant String Time} :
    call = .release lease →
    held lease.conversationId = some g →
    g.token = lease.fencingToken →
    (∀ x, g' = some x → x.token = g.token) →
    held' = Function.update held lease.conversationId g' →
    Tenure key last now call held held'

/-- The stored leases of a repository. -/
structure LeaseView (store : Store) where
  /-- the grant that is stored for a conversation -/
  held : store.σ → String → Option (Grant String Time)
  exec_spec {now call s} : store.contract.inv s →
    Tenure store.contract.key (store.contract.token s) now call (held s) (held (store.repo.exec now call s).2)
  takes_spec {s now lease outcome r} : store.contract.inv s →
    store.contract.takes s now lease outcome →
    store.contract.record s (store.contract.key lease.runId) = some r →
    r.conversationId = lease.conversationId →
    ∃ g, held s lease.conversationId = some g ∧ g.token = lease.fencingToken ∧ now < g.expires

namespace MemoryRunRepository

/-- The grant of a stored lease. -/
def grantOfLease (lease : RunLease) : Grant String Time :=
  ⟨lease.runId, lease.fencingToken, lease.expiresAt⟩

/-- The grants of the process-local repository. -/
def held (repo : MemoryRunRepository) (conversationId : String) : Option (Grant String Time) :=
  (repo.leases.lookup conversationId).map grantOfLease

lemma held_setLease (repo : MemoryRunRepository) (lease : RunLease) :
    held (repo.setLease lease) =
      Function.update (held repo) lease.conversationId (some (grantOfLease lease)) := by
  funext c
  simp only [held, setLease_leases, Dict.lookup_insert_ite, Function.update_apply]
  split <;> rfl

lemma held_grant (repo : MemoryRunRepository) (r : RunRecord) (lease : RunLease) (now : Time) :
    held (repo.grant r lease now) =
      Function.update (held repo) lease.conversationId (some (grantOfLease lease)) := by
  funext c
  simp only [held, grant, Dict.lookup_insert_ite, Function.update_apply]
  split <;> rfl

lemma held_erase (repo : MemoryRunRepository) (c : String) :
    held { repo with leases := repo.leases.erase c } = Function.update (held repo) c none := by
  funext c'
  simp only [held, Dict.lookup_erase_ite, Function.update_apply]
  split <;> rfl

section Tenures

variable {repo repo' : MemoryRunRepository} {now : Time} {lease : RunLease}

lemma tenure_acquire {identity ownerId ttlSeconds result}
    (e : acquire now identity ownerId ttlSeconds repo = (result, repo')) :
    Tenure id (token repo) now (.acquire identity ownerId ttlSeconds) (held repo) (held repo') := by
  obtain ⟨_, _, _, _, rfl⟩ | ⟨_, _, _, _, _, _, _, _, _, rfl⟩ | ⟨record, _, _, lapsed, _, rfl⟩ :=
    acquire_cases e
  · exact .same rfl
  · exact .same rfl
  · refine .granted rfl (fun g hg => ?_) (held_grant _ _ _ _)
    obtain ⟨current, stored, rfl⟩ := Option.map_eq_some_iff.mp hg
    exact lapsed current stored

lemma tenure_renew {ttlSeconds result} (e : renew now lease ttlSeconds repo = (result, repo')) :
    Tenure id (token repo) now (.renew lease ttlSeconds) (held repo) (held repo') := by
  have moved (owns : repo.ownsLease now lease = true) :
      Tenure id (token repo) now (.renew lease ttlSeconds) (held repo)
        (held (repo.setLease { lease with expiresAt := now + seconds ttlSeconds })) := by
    obtain ⟨current, stored, same, -⟩ := ownsLease_iff.mp owns
    obtain ⟨-, run, -, token⟩ := sameOwner_iff.mp same
    have stored' : held (repo.setLease { lease with expiresAt := now + seconds ttlSeconds }) =
        Function.update (held repo) lease.conversationId
          (some { grantOfLease current with expires := now + seconds ttlSeconds }) := by
      rw [held_setLease]
      simp only [grantOfLease, run, token]
    exact .extended rfl (Option.map_eq_some_iff.mpr ⟨current, stored, rfl⟩) token stored'
  obtain ⟨_, _, rfl⟩ | ⟨owns, _, _, rfl⟩ | ⟨r, owns, _, _, rfl⟩ := renew_cases e
  · exact .same rfl
  · exact moved owns
  · exact moved owns

lemma tenure_release {result} (e : release lease repo = (result, repo')) :
    Tenure id (token repo) now (.release lease) (held repo) (held repo') := by
  obtain ⟨-, ⟨_, rfl⟩ | ⟨current, stored, same, rfl⟩⟩ := release_cases e
  · exact .same rfl
  · obtain ⟨-, -, -, token⟩ := sameOwner_iff.mp same
    refine .ended rfl (Option.map_eq_some_iff.mpr ⟨current, stored, rfl⟩) token (fun x e => ?_)
      (held_erase _ _)
    cases e

lemma held_createOrGet {identity result}
    (e : createOrGet now identity repo = (result, repo')) : held repo' = held repo := by
  obtain ⟨_, _, _, _, _, _, rfl⟩ | ⟨_, _, _, _, rfl⟩ | ⟨_, _, rfl⟩ := createOrGet_cases e <;> rfl

lemma held_markTerminal {outcome result}
    (e : markTerminal now lease outcome repo = (result, repo')) : held repo' = held repo := by
  obtain ⟨_, _, rfl⟩ | ⟨_, _, _, rfl⟩ | ⟨_, _, _, _, rfl⟩ := markTerminal_cases e <;> rfl

lemma held_markHistoryCommitted {payload result}
    (e : markHistoryCommitted now lease payload repo = (result, repo')) : held repo' = held repo := by
  obtain ⟨_, _, rfl⟩ | ⟨_, _, _, rfl⟩ | ⟨_, _, _, _, rfl⟩ := markHistoryCommitted_cases e <;> rfl

lemma held_reconcileHistoryCommitted {runId payload result}
    (e : reconcileHistoryCommitted now runId payload repo = (result, repo')) :
    held repo' = held repo := by
  obtain ⟨_, _, rfl⟩ | ⟨_, _, _, rfl⟩ := reconcileHistoryCommitted_cases e <;> rfl

lemma held_revokeResumeTokens {runId result}
    (e : revokeResumeTokens now runId repo = (result, repo')) : held repo' = held repo := by
  obtain ⟨_, _, rfl⟩ | ⟨_, _, _, rfl⟩ := revokeResumeTokens_cases e <;> rfl

/-- Everything that a call does to the grants. -/
lemma tenure_exec (repo : MemoryRunRepository) (now : Time) (call : Call) :
    Tenure id (token repo) now call (held repo) (held (methods.exec now call repo).2) := by
  cases call <;> rw [RunRepository.exec, Effect.reply_snd]
  case createOrGet => exact .same (held_createOrGet rfl)
  case get => exact .same rfl
  case acquire => exact tenure_acquire rfl
  case renew => exact tenure_renew rfl
  case release => exact tenure_release rfl
  case markTerminal => exact .same (held_markTerminal rfl)
  case markHistoryCommitted => exact .same (held_markHistoryCommitted rfl)
  case reconcileHistoryCommitted => exact .same (held_reconcileHistoryCommitted rfl)
  case revokeResumeTokens => exact .same (held_revokeResumeTokens rfl)

end Tenures

end MemoryRunRepository

/-- The leases of the process-local repository. -/
def memoryLeases : LeaseView memoryStore where
  held := MemoryRunRepository.held
  exec_spec _ := MemoryRunRepository.tenure_exec _ _ _
  takes_spec _ takes _ _ := by
    obtain ⟨current, stored, same, running⟩ := MemoryRunRepository.ownsLease_iff.mp takes.1
    obtain ⟨-, -, -, token⟩ := sameOwner_iff.mp same
    exact ⟨_, Option.map_eq_some_iff.mpr ⟨current, stored, rfl⟩, token, running⟩

namespace PostgresRunRepository

/-- The grant of a lease row. -/
def grantOfRow (row : LeaseRow) : Grant String Time :=
  ⟨row.runId, row.fencingToken, row.leaseExpiresAt⟩

/-- The grants of the PostgreSQL repository. -/
def held (repo : PostgresRunRepository) (conversationId : String) : Option (Grant String Time) :=
  (repo.appConversationLeases.lookup conversationId).map grantOfRow

lemma held_setLease (repo : PostgresRunRepository) (conversationId : String) (row : LeaseRow) :
    held (repo.setLease conversationId row) =
      Function.update (held repo) conversationId (some (grantOfRow row)) := by
  funext c
  simp only [held, setLease, Dict.lookup_insert_ite, Function.update_apply]
  split <;> rfl

lemma held_renewRun (repo : PostgresRunRepository) (now : Time) (runId : String) (token : Nat)
    (expiresAt : Time) : held (repo.renewRun now runId token expiresAt) = held repo := by
  simp only [renewRun]
  split
  · rfl
  · split <;> rfl

section Tenures

variable {driver : Driver} {repo repo' : PostgresRunRepository} {now : Time} {lease : RunLease}

lemma tenure_acquire {identity ownerId ttlSeconds result}
    (e : acquire driver now identity ownerId ttlSeconds repo = (result, repo')) :
    Tenure driver.key (lastToken repo) now (.acquire identity ownerId ttlSeconds) (held repo) (held repo') := by
  obtain ⟨_, _, rfl⟩ | ⟨r, lease, hk, _, _, _, token, _, lapsed, _, rfl⟩ := acquire_cases e
  · exact .same rfl
  · have taken : held ((repo.setLease identity.conversationId (rowOf lease)).setRun lease.runId
        (r.acquired lease now)) = Function.update (held repo) identity.conversationId
          (some ⟨driver.key identity.runId, repo.lastToken identity.conversationId + 1,
            lease.expiresAt⟩) := by
      rw [Driver.key_eq hk, ← token]
      exact held_setLease _ _ _
    refine .granted rfl (fun g hg => ?_) taken
    obtain ⟨row, stored, rfl⟩ := Option.map_eq_some_iff.mp hg
    exact lapsed row stored

lemma tenure_renew {ttlSeconds result}
    (e : renew driver now lease ttlSeconds repo = (result, repo')) :
    Tenure driver.key (lastToken repo) now (.renew lease ttlSeconds) (held repo) (held repo') := by
  obtain ⟨_, _, rfl⟩ | ⟨k, owner, _, own, _, rfl⟩ := renew_cases e
  · exact .same rfl
  · obtain ⟨row, stored, run, -, token, -⟩ := leaseRow_iff.mp own
    have moved : held ((repo.setLease lease.conversationId (rowOf { lease with
        runId := k, ownerId := owner, expiresAt := now + seconds ttlSeconds })).renewRun now k
          lease.fencingToken (now + seconds ttlSeconds)) =
        Function.update (held repo) lease.conversationId
          (some { grantOfRow row with expires := now + seconds ttlSeconds }) := by
      rw [held_renewRun, held_setLease]
      simp only [grantOfRow, rowOf, run, token]
    exact .extended rfl (Option.map_eq_some_iff.mpr ⟨row, stored, rfl⟩) token moved

lemma tenure_release {result} (e : release driver now lease repo = (result, repo')) :
    Tenure driver.key (lastToken repo) now (.release lease) (held repo) (held repo') := by
  obtain rfl | ⟨row, stored, token, rfl⟩ := release_cases e
  · exact .same rfl
  · refine .ended rfl (Option.map_eq_some_iff.mpr ⟨row, stored, rfl⟩) token ?_
      (held_setLease _ _ _)
    rintro x ⟨⟩
    rfl

lemma held_createOrGet {identity result}
    (e : createOrGet driver now identity repo = (result, repo')) : held repo' = held repo := by
  obtain ⟨_, _, rfl, _⟩ | ⟨_, _, _, _, _, _, rfl⟩ | ⟨_, _, _, _, rfl⟩ := createOrGet_cases e <;> rfl

lemma held_get {runId result} (e : get driver runId repo = (result, repo')) :
    held repo' = held repo := by
  simp only [get] at e
  split at e <;> exact congrArg held (Prod.mk.inj e).2.symm

lemma held_markTerminal {outcome result}
    (e : markTerminal driver now lease outcome repo = (result, repo')) : held repo' = held repo := by
  obtain ⟨_, _, rfl⟩ | ⟨_, _, _, _, _, _, _, _, _, rfl⟩ := markTerminal_cases e <;> rfl

lemma held_markHistoryCommitted {payload result}
    (e : markHistoryCommitted driver now lease payload repo = (result, repo')) :
    held repo' = held repo := by
  obtain ⟨_, _, rfl⟩ | ⟨_, _, _, _, _, _, _, _, _, rfl⟩ := markHistoryCommitted_cases e <;> rfl

lemma held_reconcileHistoryCommitted {runId payload result}
    (e : reconcileHistoryCommitted driver now runId payload repo = (result, repo')) :
    held repo' = held repo := by
  obtain ⟨_, _, rfl, _⟩ | ⟨_, _, _, _, _, _, _, _, rfl⟩ := reconcileHistoryCommitted_cases e <;> rfl

lemma held_revokeResumeTokens {runId result}
    (e : revokeResumeTokens driver now runId repo = (result, repo')) : held repo' = held repo := by
  obtain ⟨_, _, rfl⟩ | ⟨_, _, _, _, _, rfl⟩ := revokeResumeTokens_cases e <;> rfl

/-- Everything that a call does to the grants. -/
lemma tenure_exec (now : Time) (call : Call) :
    Tenure driver.key (lastToken repo) now call (held repo) (held ((methods driver).exec now call repo).2) := by
  cases call <;> rw [RunRepository.exec, Effect.reply_snd]
  case createOrGet => exact .same (held_createOrGet rfl)
  case get => exact .same (held_get rfl)
  case acquire => exact tenure_acquire rfl
  case renew => exact tenure_renew rfl
  case release => exact tenure_release rfl
  case markTerminal => exact .same (held_markTerminal rfl)
  case markHistoryCommitted => exact .same (held_markHistoryCommitted rfl)
  case reconcileHistoryCommitted => exact .same (held_reconcileHistoryCommitted rfl)
  case revokeResumeTokens => exact .same (held_revokeResumeTokens rfl)

end Tenures

end PostgresRunRepository

/-- The leases of the PostgreSQL repository. -/
def postgresLeases (driver : Driver) : LeaseView (postgresStore driver) where
  held := PostgresRunRepository.held
  exec_spec _ := PostgresRunRepository.tenure_exec _ _
  takes_spec := by
    rintro s now lease outcome r - ⟨k, owner, payload, r', parameters, -, found, owns⟩ found' conversation
    rw [show (postgresStore driver).contract.key lease.runId = k from
      Driver.key_eq (PostgresRunRepository.leaseParameters_some parameters).1] at found'
    cases found.symm.trans found'
    simp only [PostgresRunRepository.ownsRun, Bool.and_eq_true] at owns
    obtain ⟨row, stored, -, -, token, running⟩ := PostgresRunRepository.leaseRow_iff.mp owns.2
    rw [conversation] at stored
    exact ⟨_, Option.map_eq_some_iff.mpr ⟨row, stored, rfl⟩, token, running⟩

/-- The leases of a backend. -/
def Backend.leases : (backend : Backend) → LeaseView backend.store
  | .memory => memoryLeases
  | .postgres driver => postgresLeases driver

end AgentRuntime.State
