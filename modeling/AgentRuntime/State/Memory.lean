import AgentRuntime.State.RunRepository

/-!
# The process-local run repository

Port of `MemoryRunRepository` of `state/run_repository.py`. Every method runs under the repository's
lock, so a call is atomic; the clock is read once for each call. `_assert_lease` is the guard of the
methods that need the lease in force.
-/

namespace AgentRuntime.State

/-- Process-local repository (source `MemoryRunRepository`). -/
structure MemoryRunRepository where
  records : Dict RunRecord := ∅
  leases : Dict RunLease := ∅
  fencing : Dict Nat := ∅

namespace MemoryRunRepository

/-- `self._records[run_id] = record` -/
def setRecord (repo : MemoryRunRepository) (runId : String) (record : RunRecord) :
    MemoryRunRepository :=
  { repo with records := repo.records.insert runId record }

/-- `self._leases[conversation_id] = lease` -/
def setLease (repo : MemoryRunRepository) (lease : RunLease) : MemoryRunRepository :=
  { repo with leases := repo.leases.insert lease.conversationId lease }

@[simp] lemma setRecord_records (repo : MemoryRunRepository) (runId : String) (r : RunRecord) :
    (repo.setRecord runId r).records = repo.records.insert runId r := rfl

@[simp] lemma setRecord_leases (repo : MemoryRunRepository) (runId : String) (r : RunRecord) :
    (repo.setRecord runId r).leases = repo.leases := rfl

@[simp] lemma setRecord_fencing (repo : MemoryRunRepository) (runId : String) (r : RunRecord) :
    (repo.setRecord runId r).fencing = repo.fencing := rfl

@[simp] lemma setLease_records (repo : MemoryRunRepository) (lease : RunLease) :
    (repo.setLease lease).records = repo.records := rfl

@[simp] lemma setLease_leases (repo : MemoryRunRepository) (lease : RunLease) :
    (repo.setLease lease).leases = repo.leases.insert lease.conversationId lease := rfl

@[simp] lemma setLease_fencing (repo : MemoryRunRepository) (lease : RunLease) :
    (repo.setLease lease).fencing = repo.fencing := rfl

/-- The lease is the conversation's current one and has not expired (source `_assert_lease`). -/
def ownsLease (repo : MemoryRunRepository) (now : Time) (lease : RunLease) : Bool :=
  match repo.leases.lookup lease.conversationId with
  | none => false
  | some current => sameOwner current lease && decide (now < current.expiresAt)

/-- The error of `_assert_lease`. -/
def staleLease : RepositoryError :=
  .identity .staleLease "The run no longer owns the conversation lease"

/-- The error of a call on a run without a record. -/
def missingRecord : RepositoryError :=
  .identity .runConflict "The run record does not exist"

/-- source `MemoryRunRepository.create_or_get` -/
def createOrGet (now : Time) (identity : RunIdentity) (repo : MemoryRunRepository) :
    Effect MemoryRunRepository (RunRecord × Bool) :=
  match repo.records.lookup identity.runId with
  | some record =>
    match validateRecordIdentity record identity with
    | .error error => (.error error, repo)
    | .ok () => (.ok (record, false), repo)
  | none =>
    let record := RunRecord.create identity now
    (.ok (record, true), repo.setRecord identity.runId record)

/-- source `MemoryRunRepository.get` -/
def get (runId : String) (repo : MemoryRunRepository) :
    Effect MemoryRunRepository (Option RunRecord) :=
  (.ok (repo.records.lookup runId), repo)

/-- The lease that `acquire` grants. -/
def granted (repo : MemoryRunRepository) (now : Time) (identity : RunIdentity) (ownerId : String)
    (ttlSeconds : Int) : RunLease where
  conversationId := identity.conversationId
  runId := identity.runId
  ownerId := ownerId
  fencingToken := (repo.fencing.lookup identity.conversationId).getD 0 + 1
  expiresAt := now + seconds ttlSeconds

/-- The state after `acquire` granted a lease. -/
def grant (repo : MemoryRunRepository) (record : RunRecord) (lease : RunLease) (now : Time) :
    MemoryRunRepository where
  records := repo.records.insert lease.runId (record.acquired lease now)
  leases := repo.leases.insert lease.conversationId lease
  fencing := repo.fencing.insert lease.conversationId lease.fencingToken

/-- source `MemoryRunRepository.acquire` -/
def acquire (now : Time) (identity : RunIdentity) (ownerId : String) (ttlSeconds : Int)
    (repo : MemoryRunRepository) : Effect MemoryRunRepository RunLease :=
  match repo.records.lookup identity.runId with
  | none => (.error missingRecord, repo)
  | some record =>
    match validateRecordIdentity record identity with
    | .error error => (.error error, repo)
    | .ok () =>
      if (repo.leases.lookup identity.conversationId).any fun current => now < current.expiresAt then
        (.error (.identity .conversationBusy
          "Another run is already active for this conversation"), repo)
      else
        let lease := repo.granted now identity ownerId ttlSeconds
        (.ok lease, repo.grant record lease now)

/-- source `MemoryRunRepository.renew` -/
def renew (now : Time) (lease : RunLease) (ttlSeconds : Int) (repo : MemoryRunRepository) :
    Effect MemoryRunRepository RunLease :=
  if repo.ownsLease now lease then
    let renewed := { lease with expiresAt := now + seconds ttlSeconds }
    match repo.records.lookup lease.runId with
    | none => (.error (.keyError lease.runId), repo.setLease renewed)
    | some record =>
      (.ok renewed,
        (repo.setLease renewed).setRecord lease.runId (record.renewed renewed.expiresAt now))
  else (.error staleLease, repo)

/-- source `MemoryRunRepository.release` -/
def release (lease : RunLease) (repo : MemoryRunRepository) : Effect MemoryRunRepository Unit :=
  match repo.leases.lookup lease.conversationId with
  | none => (.ok (), repo)
  | some current =>
    if sameOwner current lease then
      (.ok (), { repo with leases := repo.leases.erase lease.conversationId })
    else (.ok (), repo)

/-- `dict(response_payload) if response_payload else None`: an empty payload is none. -/
def payloadOrNone : Option JsonObject → Option JsonObject
  | some [] => none
  | payload => payload

/-- source `MemoryRunRepository.mark_terminal` -/
def markTerminal (now : Time) (lease : RunLease) (outcome : Outcome) (repo : MemoryRunRepository) :
    Effect MemoryRunRepository RunRecord :=
  if repo.ownsLease now lease then
    match repo.records.lookup lease.runId with
    | none => (.error (.keyError lease.runId), repo)
    | some record =>
      let updated := record.withOutcome outcome (payloadOrNone outcome.responsePayload) now
      (.ok updated, repo.setRecord lease.runId updated)
  else (.error staleLease, repo)

/-- source `MemoryRunRepository.mark_history_committed` -/
def markHistoryCommitted (now : Time) (lease : RunLease) (responsePayload : Option JsonObject)
    (repo : MemoryRunRepository) : Effect MemoryRunRepository RunRecord :=
  if repo.ownsLease now lease then
    match repo.records.lookup lease.runId with
    | none => (.error (.keyError lease.runId), repo)
    | some record =>
      let updated := record.historyCommitted (responsePayload <|> record.responsePayload) now now
      (.ok updated, repo.setRecord lease.runId updated)
  else (.error staleLease, repo)

/-- source `MemoryRunRepository.reconcile_history_committed` -/
def reconcileHistoryCommitted (now : Time) (runId : String) (responsePayload : Option JsonObject)
    (repo : MemoryRunRepository) : Effect MemoryRunRepository RunRecord :=
  match repo.records.lookup runId with
  | none => (.error missingRecord, repo)
  | some record =>
    let updated := record.historyCommitted (responsePayload <|> record.responsePayload)
      (record.historyCommittedAt.getD now) now
    (.ok updated, repo.setRecord runId updated)

/-- source `MemoryRunRepository.revoke_resume_tokens` -/
def revokeResumeTokens (now : Time) (runId : String) (repo : MemoryRunRepository) :
    Effect MemoryRunRepository Nat :=
  match repo.records.lookup runId with
  | none => (.error missingRecord, repo)
  | some record =>
    let updated :=
      { record with resumeTokenVersion := record.resumeTokenVersion + 1, updatedAt := some now }
    (.ok updated.resumeTokenVersion, repo.setRecord runId updated)

lemma ownsLease_iff {repo : MemoryRunRepository} {now : Time} {lease : RunLease} :
    repo.ownsLease now lease = true ↔
      ∃ current, repo.leases.lookup lease.conversationId = some current ∧
        sameOwner current lease = true ∧ now < current.expiresAt := by
  simp only [ownsLease]
  cases repo.leases.lookup lease.conversationId with
  | none => simp
  | some current => simp

section Cases

variable {now : Time} {identity : RunIdentity} {lease : RunLease} {repo repo' : MemoryRunRepository}

/-- Everything that `create_or_get` can do. -/
lemma createOrGet_cases {result} (h : createOrGet now identity repo = (result, repo')) :
    (∃ r error, repo.records.lookup identity.runId = some r ∧ ¬ r.Matches identity ∧
      result = .error error ∧ error.cls = .identity .runConflict ∧ repo' = repo) ∨
    (∃ r, repo.records.lookup identity.runId = some r ∧ r.Matches identity ∧
      result = .ok (r, false) ∧ repo' = repo) ∨
    (repo.records.lookup identity.runId = none ∧
      result = .ok (RunRecord.create identity now, true) ∧
      repo' = repo.setRecord identity.runId (RunRecord.create identity now)) := by
  simp only [createOrGet] at h
  split at h
  · next r hr =>
    split at h
    · next error he =>
      obtain ⟨rfl, rfl⟩ := Prod.mk.inj h
      refine .inl ⟨r, error, hr, fun m => ?_, rfl, validateRecordIdentity_error he, rfl⟩
      rw [validateRecordIdentity_ok.mpr m] at he
      cases he
    · next hv =>
      obtain ⟨rfl, rfl⟩ := Prod.mk.inj h
      exact .inr (.inl ⟨r, hr, validateRecordIdentity_ok.mp hv, rfl, rfl⟩)
  · next hr =>
    obtain ⟨rfl, rfl⟩ := Prod.mk.inj h
    exact .inr (.inr ⟨hr, rfl, rfl⟩)

/-- Everything that `acquire` can do. -/
lemma acquire_cases {ownerId ttlSeconds result}
    (h : acquire now identity ownerId ttlSeconds repo = (result, repo')) :
    (∃ error, (∀ r, repo.records.lookup identity.runId = some r → ¬ r.Matches identity) ∧
      result = .error error ∧ error.cls = .identity .runConflict ∧ repo' = repo) ∨
    (∃ r current error, repo.records.lookup identity.runId = some r ∧ r.Matches identity ∧
      repo.leases.lookup identity.conversationId = some current ∧ now < current.expiresAt ∧
      result = .error error ∧ error.cls = .identity .conversationBusy ∧ repo' = repo) ∨
    (∃ r, repo.records.lookup identity.runId = some r ∧ r.Matches identity ∧
      (∀ current, repo.leases.lookup identity.conversationId = some current →
        current.expiresAt ≤ now) ∧
      result = .ok (repo.granted now identity ownerId ttlSeconds) ∧
      repo' = repo.grant r (repo.granted now identity ownerId ttlSeconds) now) := by
  simp only [acquire] at h
  split at h
  · next hr =>
    obtain ⟨rfl, rfl⟩ := Prod.mk.inj h
    exact .inl ⟨_, fun r hr' => by simp [hr] at hr', rfl, rfl, rfl⟩
  · next r hr =>
    split at h
    · next error he =>
      obtain ⟨rfl, rfl⟩ := Prod.mk.inj h
      refine .inl ⟨error, fun r' hr' m => ?_, rfl, validateRecordIdentity_error he, rfl⟩
      obtain rfl := Option.some.inj (hr.symm.trans hr')
      rw [validateRecordIdentity_ok.mpr m] at he
      cases he
    · next hv =>
      have m := validateRecordIdentity_ok.mp hv
      split at h
      · next busy =>
        obtain ⟨rfl, rfl⟩ := Prod.mk.inj h
        obtain ⟨current, hc, hlt⟩ := (Option.any_eq_true _ _).mp busy
        exact .inr (.inl ⟨r, current, _, hr, m, hc, of_decide_eq_true hlt, rfl, rfl, rfl⟩)
      · next free =>
        obtain ⟨rfl, rfl⟩ := Prod.mk.inj h
        refine .inr (.inr ⟨r, hr, m, fun current hc => ?_, rfl, rfl⟩)
        simpa [hc] using free

/-- Everything that `renew` can do. -/
lemma renew_cases {ttlSeconds result} (h : renew now lease ttlSeconds repo = (result, repo')) :
    (repo.ownsLease now lease = false ∧ result = .error staleLease ∧ repo' = repo) ∨
    (repo.ownsLease now lease = true ∧ repo.records.lookup lease.runId = none ∧
      result = .error (.keyError lease.runId) ∧
      repo' = repo.setLease { lease with expiresAt := now + seconds ttlSeconds }) ∨
    (∃ r, repo.ownsLease now lease = true ∧ repo.records.lookup lease.runId = some r ∧
      result = .ok { lease with expiresAt := now + seconds ttlSeconds } ∧
      repo' = (repo.setLease { lease with expiresAt := now + seconds ttlSeconds }).setRecord
        lease.runId (r.renewed (now + seconds ttlSeconds) now)) := by
  simp only [renew] at h
  split at h
  · next owns =>
    split at h
    · next hr =>
      obtain ⟨rfl, rfl⟩ := Prod.mk.inj h
      exact .inr (.inl ⟨owns, hr, rfl, rfl⟩)
    · next r hr =>
      obtain ⟨rfl, rfl⟩ := Prod.mk.inj h
      exact .inr (.inr ⟨r, owns, hr, rfl, rfl⟩)
  · next stale =>
    obtain ⟨rfl, rfl⟩ := Prod.mk.inj h
    exact .inl ⟨Bool.eq_false_iff.mpr stale, rfl, rfl⟩

/-- Everything that `release` can do. -/
lemma release_cases {result} (h : release lease repo = (result, repo')) :
    result = .ok () ∧
      (((∀ current, repo.leases.lookup lease.conversationId = some current →
          sameOwner current lease = false) ∧ repo' = repo) ∨
        (∃ current, repo.leases.lookup lease.conversationId = some current ∧
          sameOwner current lease = true ∧
          repo' = { repo with leases := repo.leases.erase lease.conversationId })) := by
  simp only [release] at h
  split at h
  · next hc =>
    obtain ⟨rfl, rfl⟩ := Prod.mk.inj h
    exact ⟨rfl, .inl ⟨fun current hc' => by simp [hc] at hc', rfl⟩⟩
  · next current hc =>
    split at h
    · next same =>
      obtain ⟨rfl, rfl⟩ := Prod.mk.inj h
      exact ⟨rfl, .inr ⟨current, hc, same, rfl⟩⟩
    · next other =>
      obtain ⟨rfl, rfl⟩ := Prod.mk.inj h
      refine ⟨rfl, .inl ⟨fun current' hc' => ?_, rfl⟩⟩
      obtain rfl := Option.some.inj (hc.symm.trans hc')
      exact Bool.eq_false_iff.mpr other

/-- Everything that `mark_terminal` can do. -/
lemma markTerminal_cases {outcome result}
    (h : markTerminal now lease outcome repo = (result, repo')) :
    (repo.ownsLease now lease = false ∧ result = .error staleLease ∧ repo' = repo) ∨
    (repo.ownsLease now lease = true ∧ repo.records.lookup lease.runId = none ∧
      result = .error (.keyError lease.runId) ∧ repo' = repo) ∨
    (∃ r, repo.ownsLease now lease = true ∧ repo.records.lookup lease.runId = some r ∧
      result = .ok (r.withOutcome outcome (payloadOrNone outcome.responsePayload) now) ∧
      repo' = repo.setRecord lease.runId
        (r.withOutcome outcome (payloadOrNone outcome.responsePayload) now)) := by
  simp only [markTerminal] at h
  split at h
  · next owns =>
    split at h
    · next hr =>
      obtain ⟨rfl, rfl⟩ := Prod.mk.inj h
      exact .inr (.inl ⟨owns, hr, rfl, rfl⟩)
    · next r hr =>
      obtain ⟨rfl, rfl⟩ := Prod.mk.inj h
      exact .inr (.inr ⟨r, owns, hr, rfl, rfl⟩)
  · next stale =>
    obtain ⟨rfl, rfl⟩ := Prod.mk.inj h
    exact .inl ⟨Bool.eq_false_iff.mpr stale, rfl, rfl⟩

/-- Everything that `mark_history_committed` can do. -/
lemma markHistoryCommitted_cases {payload result}
    (h : markHistoryCommitted now lease payload repo = (result, repo')) :
    (repo.ownsLease now lease = false ∧ result = .error staleLease ∧ repo' = repo) ∨
    (repo.ownsLease now lease = true ∧ repo.records.lookup lease.runId = none ∧
      result = .error (.keyError lease.runId) ∧ repo' = repo) ∨
    (∃ r, repo.ownsLease now lease = true ∧ repo.records.lookup lease.runId = some r ∧
      result = .ok (r.historyCommitted (payload <|> r.responsePayload) now now) ∧
      repo' = repo.setRecord lease.runId
        (r.historyCommitted (payload <|> r.responsePayload) now now)) := by
  simp only [markHistoryCommitted] at h
  split at h
  · next owns =>
    split at h
    · next hr =>
      obtain ⟨rfl, rfl⟩ := Prod.mk.inj h
      exact .inr (.inl ⟨owns, hr, rfl, rfl⟩)
    · next r hr =>
      obtain ⟨rfl, rfl⟩ := Prod.mk.inj h
      exact .inr (.inr ⟨r, owns, hr, rfl, rfl⟩)
  · next stale =>
    obtain ⟨rfl, rfl⟩ := Prod.mk.inj h
    exact .inl ⟨Bool.eq_false_iff.mpr stale, rfl, rfl⟩

/-- Everything that `reconcile_history_committed` can do. -/
lemma reconcileHistoryCommitted_cases {runId payload result}
    (h : reconcileHistoryCommitted now runId payload repo = (result, repo')) :
    (repo.records.lookup runId = none ∧ result = .error missingRecord ∧ repo' = repo) ∨
    (∃ r, repo.records.lookup runId = some r ∧
      result = .ok (r.historyCommitted (payload <|> r.responsePayload)
        (r.historyCommittedAt.getD now) now) ∧
      repo' = repo.setRecord runId (r.historyCommitted (payload <|> r.responsePayload)
        (r.historyCommittedAt.getD now) now)) := by
  simp only [reconcileHistoryCommitted] at h
  split at h
  · next hr =>
    obtain ⟨rfl, rfl⟩ := Prod.mk.inj h
    exact .inl ⟨hr, rfl, rfl⟩
  · next r hr =>
    obtain ⟨rfl, rfl⟩ := Prod.mk.inj h
    exact .inr ⟨r, hr, rfl, rfl⟩

/-- Everything that `revoke_resume_tokens` can do. -/
lemma revokeResumeTokens_cases {runId result}
    (h : revokeResumeTokens now runId repo = (result, repo')) :
    (repo.records.lookup runId = none ∧ result = .error missingRecord ∧ repo' = repo) ∨
    (∃ r, repo.records.lookup runId = some r ∧ result = .ok (r.resumeTokenVersion + 1) ∧
      repo' = repo.setRecord runId
        { r with resumeTokenVersion := r.resumeTokenVersion + 1, updatedAt := some now }) := by
  simp only [revokeResumeTokens] at h
  split at h
  · next hr =>
    obtain ⟨rfl, rfl⟩ := Prod.mk.inj h
    exact .inl ⟨hr, rfl, rfl⟩
  · next r hr =>
    obtain ⟨rfl, rfl⟩ := Prod.mk.inj h
    exact .inr ⟨r, hr, rfl, rfl⟩

end Cases

/-- The record of a run. -/
def record (repo : MemoryRunRepository) (runId : String) : Option RunRecord :=
  repo.records.lookup runId

/-- The last fencing token of a conversation. -/
def token (repo : MemoryRunRepository) (conversationId : String) : Nat :=
  (repo.fencing.lookup conversationId).getD 0

/-- Writing a record, seen through the records. -/
lemma record_setRecord (repo : MemoryRunRepository) (runId : String) (r : RunRecord) :
    record (repo.setRecord runId r) = Function.update (record repo) runId (some r) := by
  funext k
  simp [record, Function.update_apply]

/-- Granting a lease, seen through the records. -/
lemma record_grant (repo : MemoryRunRepository) (r : RunRecord) (lease : RunLease) (now : Time) :
    record (repo.grant r lease now) =
      Function.update (record repo) lease.runId (some (r.acquired lease now)) := by
  funext k
  simp [record, grant, Function.update_apply]

/-- Granting a lease, seen through the tokens. -/
lemma token_grant (repo : MemoryRunRepository) (r : RunRecord) (lease : RunLease) (now : Time) :
    token (repo.grant r lease now) =
      Function.update (token repo) lease.conversationId lease.fencingToken := by
  funext c
  simp only [token, grant, Dict.lookup_insert_ite, Function.update_apply]
  split <;> rfl

/-- The methods of the process-local repository. -/
def methods : RunRepository MemoryRunRepository where
  createOrGet := createOrGet
  get := get
  acquire := acquire
  renew := renew
  release _ := release
  markTerminal := markTerminal
  markHistoryCommitted := markHistoryCommitted
  reconcileHistoryCommitted := reconcileHistoryCommitted
  revokeResumeTokens := revokeResumeTokens

end MemoryRunRepository

end AgentRuntime.State
