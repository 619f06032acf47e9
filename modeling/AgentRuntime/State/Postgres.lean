import AgentRuntime.Data.Text
import AgentRuntime.State.RunRepository

/-!
# The PostgreSQL run repository

Port of `PostgresRunRepository` of `state/run_repository.py` over the tables of
`state/migrations/0001_run_repository.sql`. A table is a dictionary by its primary key; each method's
statements run as one atomic step at the instant that `NOW()` shows, and a transaction that raises is
rolled back. A statement refuses values that its columns cannot hold: text with a NUL character, an
integer outside its type, a duplicate in a `UNIQUE` column. What the driver and the server make of
UUID texts and of JSON documents is a parameter, `Driver`.
-/

namespace AgentRuntime.State
open Text

/-- The values that asyncpg and PostgreSQL convert: a text to the UUID it denotes, in the canonical
    text that `str` gives back, and a document to the one that is read back from a `JSONB` column.
    `none` is a refused value. Converting a canonical UUID text gives it back, and a stored document
    is the same but for the spelling of its fractions and the order of its fields. -/
structure Driver where
  uuid : String → Option String
  jsonb : JsonObject → Option JsonObject
  uuid_canonical : ∀ {text canonical}, uuid text = some canonical → uuid canonical = some canonical
  jsonb_same : ∀ {object stored}, jsonb object = some stored → Json.Same (.obj object) (.obj stored)

/-- The largest value of an `INTEGER` column. -/
def maxInteger : Nat := 2147483647

/-- The largest value of a `BIGINT` column. -/
def maxBigint : Nat := 9223372036854775807

/-- A `TEXT` column holds a text without NUL characters. -/
def storableText (text : String) : Bool := !text.toList.contains '\x00'

/-- A row of `app_conversation_leases`, without its key. -/
structure LeaseRow where
  runId : String
  leaseOwner : String
  fencingToken : Nat
  leaseExpiresAt : Time
deriving DecidableEq, Repr

/-- The two tables of the repository (source `PostgresRunRepository`). -/
structure PostgresRunRepository where
  appRuns : Dict RunRecord := ∅
  appConversationLeases : Dict LeaseRow := ∅

namespace Driver

variable (driver : Driver)

/-- The key of the `app_runs` row that a run id names. -/
def key (runId : String) : String := (driver.uuid runId).getD runId

lemma key_eq {driver : Driver} {runId k : String} (h : driver.uuid runId = some k) :
    driver.key runId = k := by
  rw [key, h]
  rfl

/-- A document parameter, `json.dumps(payload) if payload is not None else None`. -/
def payload : Option JsonObject → Option (Option JsonObject)
  | none => some none
  | some object => (driver.jsonb object).map some

/-- The parameters `lease.run_id`, `lease.owner_id` and `lease.fencing_token` of a statement. -/
def leaseParameters (lease : RunLease) : Option (String × String) :=
  match driver.uuid lease.runId, driver.uuid lease.ownerId with
  | some runId, some ownerId => if lease.fencingToken ≤ maxBigint then some (runId, ownerId) else none
  | _, _ => none

end Driver

namespace PostgresRunRepository

/-- The `app_runs` row of a run is written. -/
def setRun (repo : PostgresRunRepository) (runId : String) (record : RunRecord) :
    PostgresRunRepository :=
  { repo with appRuns := repo.appRuns.insert runId record }

/-- The `app_conversation_leases` row of a conversation is written. -/
def setLease (repo : PostgresRunRepository) (conversationId : String) (row : LeaseRow) :
    PostgresRunRepository :=
  { repo with
    appConversationLeases := repo.appConversationLeases.insert conversationId row }

/-- The error of a guarded update by a lease that is not in force. -/
def staleLease (message : String) : RepositoryError := .identity .staleLease message

/-- The error of an update that finds no run. -/
def missingRecord (message : String) : RepositoryError := .identity .runConflict message

/-- The row of a conversation is the lease `(runId, ownerId, token)` and has not expired. -/
def leaseRow (repo : PostgresRunRepository) (now : Time) (conversationId runId ownerId : String)
    (token : Nat) : Bool :=
  match repo.appConversationLeases.lookup conversationId with
  | none => false
  | some row =>
    row.runId = runId && row.leaseOwner = ownerId && row.fencingToken = token
      && decide (now < row.leaseExpiresAt)

/-- The guard of the outcome updates: `lease_owner`, `fencing_token` and `EXISTS (...)`. -/
def ownsRun (repo : PostgresRunRepository) (now : Time) (record : RunRecord)
    (runId ownerId : String) (token : Nat) : Bool :=
  record.leaseOwner = some ownerId && record.fencingToken = some token
    && repo.leaseRow now record.conversationId runId ownerId token

/-- The last fencing token of a conversation: the one of its row, 0 when it has none. -/
def lastToken (repo : PostgresRunRepository) (conversationId : String) : Nat :=
  ((repo.appConversationLeases.lookup conversationId).map LeaseRow.fencingToken).getD 0

/-- The row that holds a lease. -/
def rowOf (lease : RunLease) : LeaseRow where
  runId := lease.runId
  leaseOwner := lease.ownerId
  fencingToken := lease.fencingToken
  leaseExpiresAt := lease.expiresAt

/-- The second statement of `renew`, guarded by the run's fencing token. -/
def renewRun (repo : PostgresRunRepository) (now : Time) (runId : String) (token : Nat)
    (expiresAt : Time) : PostgresRunRepository :=
  match repo.appRuns.lookup runId with
  | none => repo
  | some record =>
    if record.fencingToken = some token then repo.setRun runId (record.renewed expiresAt now)
    else repo

variable (driver : Driver)

/-- source `PostgresRunRepository.create_or_get` -/
def createOrGet (now : Time) (identity : RunIdentity) (repo : PostgresRunRepository) :
    Effect PostgresRunRepository (RunRecord × Bool) :=
  match driver.uuid identity.runId with
  | none => (.error .database, repo)
  | some runId =>
    if ¬ (storableText identity.conversationId ∧ storableText identity.executionThreadId ∧
        storableText identity.requestHash ∧ identity.stateSchemaVersion ≤ maxInteger ∧
        identity.resumeTokenVersion ≤ maxInteger) then
      (.error .database, repo)
    else
      match repo.appRuns.lookup runId with
      | some record =>
        -- ON CONFLICT (run_id) DO NOTHING, and the row is selected instead
        match validateRecordIdentity record identity with
        | .error error => (.error error, repo)
        | .ok () => (.ok (record, false), repo)
      | none =>
        -- execution_thread_id TEXT NOT NULL UNIQUE
        if repo.appRuns.entries.any fun row =>
            row.2.executionThreadId = identity.executionThreadId then
          (.error .database, repo)
        else
          let record := { RunRecord.create identity now with runId }
          (.ok (record, true), repo.setRun runId record)

/-- source `PostgresRunRepository.get` -/
def get (runId : String) (repo : PostgresRunRepository) :
    Effect PostgresRunRepository (Option RunRecord) :=
  match driver.uuid runId with
  | none => (.error .database, repo)
  | some runId => (.ok (repo.appRuns.lookup runId), repo)

/-- source `PostgresRunRepository.acquire` -/
def acquire (now : Time) (identity : RunIdentity) (ownerId : String) (ttlSeconds : Int)
    (repo : PostgresRunRepository) : Effect PostgresRunRepository RunLease :=
  match driver.uuid identity.runId, driver.uuid ownerId with
  | some runId, some ownerId =>
    if ¬ storableText identity.conversationId then (.error .database, repo)
    else
      if (repo.appConversationLeases.lookup identity.conversationId).any fun row =>
          now < row.leaseExpiresAt then
        (.error (.identity .conversationBusy
          "Another run is already active for this conversation"), repo)
      else
        let lease : RunLease :=
          { conversationId := identity.conversationId
            runId := runId
            ownerId := ownerId
            fencingToken := repo.lastToken identity.conversationId + 1
            expiresAt := now + seconds ttlSeconds }
        if maxBigint < lease.fencingToken then (.error .database, repo)
        else
          match repo.appRuns.lookup runId with
          | none => (.error (missingRecord "The run record does not exist"), repo)
          | some record =>
            (.ok lease, (repo.setLease identity.conversationId (rowOf lease)).setRun runId
              (record.acquired lease now))
  | _, _ => (.error .database, repo)

/-- source `PostgresRunRepository.renew` -/
def renew (now : Time) (lease : RunLease) (ttlSeconds : Int) (repo : PostgresRunRepository) :
    Effect PostgresRunRepository RunLease :=
  match driver.leaseParameters lease with
  | none => (.error .database, repo)
  | some (runId, ownerId) =>
    if ¬ storableText lease.conversationId then (.error .database, repo)
    else if repo.leaseRow now lease.conversationId runId ownerId lease.fencingToken then
      let expiresAt := now + seconds ttlSeconds
      let row := rowOf { lease with runId, ownerId, expiresAt }
      (.ok { lease with expiresAt },
        (repo.setLease lease.conversationId row).renewRun now runId lease.fencingToken expiresAt)
    else (.error (staleLease "The run no longer owns the conversation lease"), repo)

/-- source `PostgresRunRepository.release` -/
def release (now : Time) (lease : RunLease) (repo : PostgresRunRepository) :
    Effect PostgresRunRepository Unit :=
  match driver.leaseParameters lease with
  | none => (.error .database, repo)
  | some (runId, ownerId) =>
    if ¬ storableText lease.conversationId then (.error .database, repo)
    else
      match repo.appConversationLeases.lookup lease.conversationId with
      | none => (.ok (), repo)
      | some row =>
        if row.runId = runId ∧ row.leaseOwner = ownerId ∧ row.fencingToken = lease.fencingToken then
          (.ok (), repo.setLease lease.conversationId { row with leaseExpiresAt := now })
        else (.ok (), repo)

/-- The parameters of `mark_terminal` that are documents and texts. -/
def outcomeParameters (outcome : Outcome) : Option (Option JsonObject) :=
  match driver.payload outcome.responsePayload with
  | none => none
  | some payload =>
    if outcome.terminationReason.all storableText && outcome.errorCode.all storableText
        && outcome.checkpointId.all storableText then some payload
    else none

/-- source `PostgresRunRepository.mark_terminal` -/
def markTerminal (now : Time) (lease : RunLease) (outcome : Outcome)
    (repo : PostgresRunRepository) : Effect PostgresRunRepository RunRecord :=
  match driver.leaseParameters lease, outcomeParameters driver outcome with
  | some (runId, ownerId), some payload =>
    match repo.appRuns.lookup runId with
    | none => (.error (staleLease "A stale run owner cannot persist an outcome"), repo)
    | some record =>
      if repo.ownsRun now record runId ownerId lease.fencingToken then
        let updated := record.withOutcome outcome payload now
        (.ok updated, repo.setRun runId updated)
      else (.error (staleLease "A stale run owner cannot persist an outcome"), repo)
  | _, _ => (.error .database, repo)

/-- source `PostgresRunRepository.mark_history_committed` -/
def markHistoryCommitted (now : Time) (lease : RunLease) (responsePayload : Option JsonObject)
    (repo : PostgresRunRepository) : Effect PostgresRunRepository RunRecord :=
  match driver.leaseParameters lease, driver.payload responsePayload with
  | some (runId, ownerId), some payload =>
    match repo.appRuns.lookup runId with
    | none => (.error (staleLease "A stale run owner cannot commit conversation history"), repo)
    | some record =>
      if repo.ownsRun now record runId ownerId lease.fencingToken then
        let updated := record.historyCommitted (payload <|> record.responsePayload)
          (record.historyCommittedAt.getD now) now
        (.ok updated, repo.setRun runId updated)
      else (.error (staleLease "A stale run owner cannot commit conversation history"), repo)
  | _, _ => (.error .database, repo)

/-- The statuses of the `WHERE` clause of `reconcile_history_committed`. -/
def reconcilable : List RunStatus := [.completed, .failed, .cancelled]

/-- source `PostgresRunRepository.reconcile_history_committed` -/
def reconcileHistoryCommitted (now : Time) (runId : String) (responsePayload : Option JsonObject)
    (repo : PostgresRunRepository) : Effect PostgresRunRepository RunRecord :=
  match driver.uuid runId, driver.payload responsePayload with
  | some runId, some payload =>
    match repo.appRuns.lookup runId with
    | none => (.error (missingRecord "The terminal run record does not exist"), repo)
    | some record =>
      if record.status ∈ reconcilable then
        let updated := record.historyCommitted (payload <|> record.responsePayload)
          (record.historyCommittedAt.getD now) now
        (.ok updated, repo.setRun runId updated)
      else (.error (missingRecord "The terminal run record does not exist"), repo)
  | _, _ => (.error .database, repo)

/-- source `PostgresRunRepository.revoke_resume_tokens` -/
def revokeResumeTokens (now : Time) (runId : String) (repo : PostgresRunRepository) :
    Effect PostgresRunRepository Nat :=
  match driver.uuid runId with
  | none => (.error .database, repo)
  | some runId =>
    match repo.appRuns.lookup runId with
    | none => (.error (missingRecord "The run record does not exist"), repo)
    | some record =>
      let version := record.resumeTokenVersion + 1
      if maxInteger < version then (.error .database, repo)
      else
        let updated := { record with resumeTokenVersion := version, updatedAt := some now }
        (.ok version, repo.setRun runId updated)

section Cases

variable {driver : Driver} {now : Time} {identity : RunIdentity} {lease : RunLease}
variable {repo repo' : PostgresRunRepository}

lemma leaseParameters_some {parameters} (h : driver.leaseParameters lease = some parameters) :
    driver.uuid lease.runId = some parameters.1 ∧ driver.uuid lease.ownerId = some parameters.2 ∧
      lease.fencingToken ≤ maxBigint := by
  simp only [Driver.leaseParameters] at h
  split at h
  · next hr ho =>
    split at h
    · next le =>
      cases h
      exact ⟨hr, ho, le⟩
    · cases h
  · cases h

lemma leaseRow_iff {conversationId runId ownerId token} :
    repo.leaseRow now conversationId runId ownerId token = true ↔
      ∃ row, repo.appConversationLeases.lookup conversationId = some row ∧ row.runId = runId ∧
        row.leaseOwner = ownerId ∧ row.fencingToken = token ∧ now < row.leaseExpiresAt := by
  simp only [leaseRow]
  cases repo.appConversationLeases.lookup conversationId with
  | none => simp
  | some row => simp [and_assoc]

/-- Everything that `create_or_get` can do. -/
lemma createOrGet_cases {result} (h : createOrGet driver now identity repo = (result, repo')) :
    (∃ error, result = .error error ∧ repo' = repo ∧ (error = .database ∨
      ∀ r, repo.appRuns.lookup (driver.key identity.runId) = some r → ¬ r.Matches identity)) ∨
    (∃ k r, driver.uuid identity.runId = some k ∧ repo.appRuns.lookup k = some r ∧
      r.Matches identity ∧ result = .ok (r, false) ∧ repo' = repo) ∨
    (∃ k, driver.uuid identity.runId = some k ∧ repo.appRuns.lookup k = none ∧
      result = .ok ({ RunRecord.create identity now with runId := k }, true) ∧
      repo' = repo.setRun k { RunRecord.create identity now with runId := k }) := by
  simp only [createOrGet] at h
  split at h
  · obtain ⟨rfl, rfl⟩ := Prod.mk.inj h
    exact .inl ⟨_, rfl, rfl, .inl rfl⟩
  · next k hk =>
    split at h
    · obtain ⟨rfl, rfl⟩ := Prod.mk.inj h
      exact .inl ⟨_, rfl, rfl, .inl rfl⟩
    · split at h
      · next r hr =>
        split at h
        · next error he =>
          obtain ⟨rfl, rfl⟩ := Prod.mk.inj h
          refine .inl ⟨error, rfl, rfl, .inr fun r' hr' m => ?_⟩
          rw [Driver.key_eq hk] at hr'
          cases hr.symm.trans hr'
          rw [validateRecordIdentity_ok.mpr m] at he
          cases he
        · next hv =>
          obtain ⟨rfl, rfl⟩ := Prod.mk.inj h
          exact .inr (.inl ⟨k, r, hk, hr, validateRecordIdentity_ok.mp hv, rfl, rfl⟩)
      · next hr =>
        split at h
        · obtain ⟨rfl, rfl⟩ := Prod.mk.inj h
          exact .inl ⟨_, rfl, rfl, .inl rfl⟩
        · obtain ⟨rfl, rfl⟩ := Prod.mk.inj h
          exact .inr (.inr ⟨k, hk, hr, rfl, rfl⟩)

/-- Everything that `acquire` can do. -/
lemma acquire_cases {ownerId ttlSeconds result}
    (h : acquire driver now identity ownerId ttlSeconds repo = (result, repo')) :
    (∃ error, result = .error error ∧ repo' = repo) ∨
    (∃ r lease, driver.uuid identity.runId = some lease.runId ∧
      driver.uuid ownerId = some lease.ownerId ∧
      repo.appRuns.lookup lease.runId = some r ∧
      lease.conversationId = identity.conversationId ∧
      lease.fencingToken = repo.lastToken identity.conversationId + 1 ∧
      lease.expiresAt = now + seconds ttlSeconds ∧
      (∀ row, repo.appConversationLeases.lookup identity.conversationId = some row →
        row.leaseExpiresAt ≤ now) ∧ result = .ok lease ∧
      repo' = (repo.setLease identity.conversationId (rowOf lease)).setRun lease.runId
        (r.acquired lease now)) := by
  simp only [acquire] at h
  split at h
  · next k owner hk ho =>
    split at h
    · obtain ⟨rfl, rfl⟩ := Prod.mk.inj h
      exact .inl ⟨_, rfl, rfl⟩
    · split at h
      · obtain ⟨rfl, rfl⟩ := Prod.mk.inj h
        exact .inl ⟨_, rfl, rfl⟩
      · next free =>
        split at h
        · obtain ⟨rfl, rfl⟩ := Prod.mk.inj h
          exact .inl ⟨_, rfl, rfl⟩
        · split at h
          · obtain ⟨rfl, rfl⟩ := Prod.mk.inj h
            exact .inl ⟨_, rfl, rfl⟩
          · next r hr =>
            obtain ⟨rfl, rfl⟩ := Prod.mk.inj h
            refine .inr ⟨r, _, hk, ho, hr, rfl, rfl, rfl, fun row hrow => ?_, rfl, rfl⟩
            simpa [hrow] using free
  · obtain ⟨rfl, rfl⟩ := Prod.mk.inj h
    exact .inl ⟨_, rfl, rfl⟩

/-- Everything that `renew` can do. -/
lemma renew_cases {ttlSeconds result}
    (h : renew driver now lease ttlSeconds repo = (result, repo')) :
    (∃ error, result = .error error ∧ repo' = repo) ∨
    (∃ k owner, driver.leaseParameters lease = some (k, owner) ∧
      repo.leaseRow now lease.conversationId k owner lease.fencingToken = true ∧
      result = .ok { lease with expiresAt := now + seconds ttlSeconds } ∧
      repo' = (repo.setLease lease.conversationId (rowOf { lease with
        runId := k, ownerId := owner, expiresAt := now + seconds ttlSeconds })).renewRun now k
          lease.fencingToken (now + seconds ttlSeconds)) := by
  simp only [renew] at h
  split at h
  · obtain ⟨rfl, rfl⟩ := Prod.mk.inj h
    exact .inl ⟨_, rfl, rfl⟩
  · next k owner hp =>
    split at h
    · obtain ⟨rfl, rfl⟩ := Prod.mk.inj h
      exact .inl ⟨_, rfl, rfl⟩
    · split at h
      · next row =>
        obtain ⟨rfl, rfl⟩ := Prod.mk.inj h
        exact .inr ⟨k, owner, hp, row, rfl, rfl⟩
      · obtain ⟨rfl, rfl⟩ := Prod.mk.inj h
        exact .inl ⟨_, rfl, rfl⟩

/-- Everything that `release` can do. -/
lemma release_cases {result} (h : release driver now lease repo = (result, repo')) :
    repo' = repo ∨
    (∃ row, repo.appConversationLeases.lookup lease.conversationId = some row ∧
      row.fencingToken = lease.fencingToken ∧
      repo' = repo.setLease lease.conversationId { row with leaseExpiresAt := now }) := by
  simp only [release] at h
  split at h
  · exact .inl (Prod.mk.inj h).2.symm
  · split at h
    · exact .inl (Prod.mk.inj h).2.symm
    · split at h
      · exact .inl (Prod.mk.inj h).2.symm
      · next row hrow =>
        split at h
        · next own => exact .inr ⟨row, hrow, own.2.2, (Prod.mk.inj h).2.symm⟩
        · exact .inl (Prod.mk.inj h).2.symm

/-- `mark_terminal` takes effect: the database accepts its parameters, and its `WHERE` clause holds. -/
def TakesOutcome (driver : Driver) (repo : PostgresRunRepository) (now : Time) (lease : RunLease)
    (outcome : Outcome) : Prop :=
  ∃ k owner payload r, driver.leaseParameters lease = some (k, owner) ∧
    outcomeParameters driver outcome = some payload ∧ repo.appRuns.lookup k = some r ∧
    repo.ownsRun now r k owner lease.fencingToken = true

/-- Everything that `mark_terminal` can do. -/
lemma markTerminal_cases {outcome result}
    (h : markTerminal driver now lease outcome repo = (result, repo')) :
    (¬ TakesOutcome driver repo now lease outcome ∧ (∃ error, result = .error error) ∧
      repo' = repo) ∨
    (∃ k owner payload r, driver.leaseParameters lease = some (k, owner) ∧
      outcomeParameters driver outcome = some payload ∧ repo.appRuns.lookup k = some r ∧
      repo.ownsRun now r k owner lease.fencingToken = true ∧
      result = .ok (r.withOutcome outcome payload now) ∧
      repo' = repo.setRun k (r.withOutcome outcome payload now)) := by
  simp only [markTerminal] at h
  split at h
  · next k owner payload hp ho =>
    split at h
    · next hr =>
      obtain ⟨rfl, rfl⟩ := Prod.mk.inj h
      refine .inl ⟨?_, ⟨_, rfl⟩, rfl⟩
      rintro ⟨k', owner', payload', r, hp', ho', hr', owns⟩
      cases hp.symm.trans hp'
      simp [hr] at hr'
    · next r hr =>
      split at h
      · next owns =>
        obtain ⟨rfl, rfl⟩ := Prod.mk.inj h
        exact .inr ⟨k, owner, payload, r, hp, ho, hr, owns, rfl, rfl⟩
      · next other =>
        obtain ⟨rfl, rfl⟩ := Prod.mk.inj h
        refine .inl ⟨?_, ⟨_, rfl⟩, rfl⟩
        rintro ⟨k', owner', payload', r', hp', ho', hr', owns⟩
        cases hp.symm.trans hp'
        cases hr.symm.trans hr'
        exact other owns
  · next refused =>
    obtain ⟨rfl, rfl⟩ := Prod.mk.inj h
    refine .inl ⟨?_, ⟨_, rfl⟩, rfl⟩
    rintro ⟨k, owner, payload, r, hp, ho, -, -⟩
    exact refused _ _ _ hp ho

/-- Everything that `mark_history_committed` can do. -/
lemma markHistoryCommitted_cases {payload result}
    (h : markHistoryCommitted driver now lease payload repo = (result, repo')) :
    (∃ error, result = .error error ∧ repo' = repo) ∨
    (∃ k owner stored r, driver.leaseParameters lease = some (k, owner) ∧
      driver.payload payload = some stored ∧ repo.appRuns.lookup k = some r ∧
      repo.ownsRun now r k owner lease.fencingToken = true ∧
      result = .ok (r.historyCommitted (stored <|> r.responsePayload)
        (r.historyCommittedAt.getD now) now) ∧
      repo' = repo.setRun k (r.historyCommitted (stored <|> r.responsePayload)
        (r.historyCommittedAt.getD now) now)) := by
  simp only [markHistoryCommitted] at h
  split at h
  · next k owner stored hp hs =>
    split at h
    · obtain ⟨rfl, rfl⟩ := Prod.mk.inj h
      exact .inl ⟨_, rfl, rfl⟩
    · next r hr =>
      split at h
      · next owns =>
        obtain ⟨rfl, rfl⟩ := Prod.mk.inj h
        exact .inr ⟨k, owner, stored, r, hp, hs, hr, owns, rfl, rfl⟩
      · obtain ⟨rfl, rfl⟩ := Prod.mk.inj h
        exact .inl ⟨_, rfl, rfl⟩
  · obtain ⟨rfl, rfl⟩ := Prod.mk.inj h
    exact .inl ⟨_, rfl, rfl⟩

/-- Everything that `reconcile_history_committed` can do. -/
lemma reconcileHistoryCommitted_cases {runId payload result}
    (h : reconcileHistoryCommitted driver now runId payload repo = (result, repo')) :
    (∃ error, result = .error error ∧ repo' = repo ∧ (error = .database ∨
      ∀ r, repo.appRuns.lookup (driver.key runId) = some r → r.status ∉ reconcilable)) ∨
    (∃ k stored r, driver.uuid runId = some k ∧ driver.payload payload = some stored ∧
      repo.appRuns.lookup k = some r ∧ r.status ∈ reconcilable ∧
      result = .ok (r.historyCommitted (stored <|> r.responsePayload)
        (r.historyCommittedAt.getD now) now) ∧
      repo' = repo.setRun k (r.historyCommitted (stored <|> r.responsePayload)
        (r.historyCommittedAt.getD now) now)) := by
  simp only [reconcileHistoryCommitted] at h
  split at h
  · next k stored hk hs =>
    split at h
    · next hr =>
      obtain ⟨rfl, rfl⟩ := Prod.mk.inj h
      refine .inl ⟨_, rfl, rfl, .inr fun r' hr' => ?_⟩
      rw [Driver.key_eq hk] at hr'
      cases hr.symm.trans hr'
    · next r hr =>
      split at h
      · next mem =>
        obtain ⟨rfl, rfl⟩ := Prod.mk.inj h
        exact .inr ⟨k, stored, r, hk, hs, hr, mem, rfl, rfl⟩
      · next unsettled =>
        obtain ⟨rfl, rfl⟩ := Prod.mk.inj h
        refine .inl ⟨_, rfl, rfl, .inr fun r' hr' => ?_⟩
        rw [Driver.key_eq hk] at hr'
        cases hr.symm.trans hr'
        exact unsettled
  · obtain ⟨rfl, rfl⟩ := Prod.mk.inj h
    exact .inl ⟨_, rfl, rfl, .inl rfl⟩

/-- Everything that `revoke_resume_tokens` can do. -/
lemma revokeResumeTokens_cases {runId result}
    (h : revokeResumeTokens driver now runId repo = (result, repo')) :
    (∃ error, result = .error error ∧ repo' = repo) ∨
    (∃ k r, driver.uuid runId = some k ∧ repo.appRuns.lookup k = some r ∧
      result = .ok (r.resumeTokenVersion + 1) ∧
      repo' = repo.setRun k
        { r with resumeTokenVersion := r.resumeTokenVersion + 1, updatedAt := some now }) := by
  simp only [revokeResumeTokens] at h
  split at h
  · obtain ⟨rfl, rfl⟩ := Prod.mk.inj h
    exact .inl ⟨_, rfl, rfl⟩
  · next k hk =>
    split at h
    · obtain ⟨rfl, rfl⟩ := Prod.mk.inj h
      exact .inl ⟨_, rfl, rfl⟩
    · next r hr =>
      split at h
      · obtain ⟨rfl, rfl⟩ := Prod.mk.inj h
        exact .inl ⟨_, rfl, rfl⟩
      · obtain ⟨rfl, rfl⟩ := Prod.mk.inj h
        exact .inr ⟨k, r, hk, hr, rfl, rfl⟩

end Cases

/-- The record of a run. -/
def record (repo : PostgresRunRepository) (runId : String) : Option RunRecord :=
  repo.appRuns.lookup runId

/-- Writing a run's row, seen through the records. -/
lemma record_setRun (repo : PostgresRunRepository) (runId : String) (r : RunRecord) :
    record (repo.setRun runId r) = Function.update (record repo) runId (some r) := by
  funext k
  simp [record, setRun, Function.update_apply]

/-- Writing a lease row, seen through the tokens. -/
lemma lastToken_setLease (repo : PostgresRunRepository) (conversationId : String) (row : LeaseRow) :
    lastToken (repo.setLease conversationId row) =
      Function.update (lastToken repo) conversationId row.fencingToken := by
  funext c
  simp only [lastToken, setLease, Dict.lookup_insert_ite, Function.update_apply]
  split <;> rfl

/-- Writing a lease row with the token that it has. -/
lemma lastToken_setLease_same {repo : PostgresRunRepository} {conversationId : String}
    {row row' : LeaseRow} (h : repo.appConversationLeases.lookup conversationId = some row)
    (same : row'.fencingToken = row.fencingToken) :
    lastToken (repo.setLease conversationId row') = lastToken repo := by
  rw [lastToken_setLease, same]
  refine Function.update_eq_self_iff.mpr ?_
  simp [lastToken, h]

/-- Expiring a lease row, seen through the tokens. -/
lemma lastToken_expire {repo : PostgresRunRepository} {conversationId : String} {row : LeaseRow}
    (h : repo.appConversationLeases.lookup conversationId = some row) (now : Time) :
    lastToken (repo.setLease conversationId { row with leaseExpiresAt := now }) = lastToken repo := by
  apply lastToken_setLease_same h
  rfl

/-- The second statement of `renew` touches the lease expiry of one run at most. -/
lemma record_renewRun (repo : PostgresRunRepository) (now : Time) (runId : String) (token : Nat)
    (expiresAt : Time) (k : String) :
    record (repo.renewRun now runId token expiresAt) k = record repo k ∨
      ∃ r, record repo k = some r ∧
        record (repo.renewRun now runId token expiresAt) k = some (r.renewed expiresAt now) := by
  simp only [renewRun]
  split
  · exact .inl rfl
  · next r hr =>
    split
    · rw [record_setRun, Function.update_apply]
      split
      · next e =>
        subst e
        exact .inr ⟨r, hr, rfl⟩
      · exact .inl rfl
    · exact .inl rfl

lemma lastToken_renewRun (repo : PostgresRunRepository) (now : Time) (runId : String) (token : Nat)
    (expiresAt : Time) : lastToken (repo.renewRun now runId token expiresAt) = lastToken repo := by
  simp only [renewRun]
  split
  · rfl
  · split <;> rfl

lemma keeps_payload {driver : Driver} {payload stored : Option JsonObject}
    (h : driver.payload payload = some stored) : Keeps payload stored := by
  cases payload with
  | none =>
    cases h
    exact .refl none
  | some object =>
    obtain ⟨object', ho, rfl⟩ := Option.map_eq_some_iff.mp h
    refine ⟨nofun, fun o e _ => ⟨object', rfl, ?_⟩⟩
    cases e
    exact driver.jsonb_same ho

lemma outcomeParameters_payload {driver : Driver} {outcome : Outcome} {stored : Option JsonObject}
    (h : outcomeParameters driver outcome = some stored) :
    driver.payload outcome.responsePayload = some stored := by
  simp only [outcomeParameters] at h
  split at h
  · cases h
  · next payload hp =>
    split at h
    · cases h
      exact hp
    · cases h

/-- The methods of the PostgreSQL repository. -/
def methods (driver : Driver) : RunRepository PostgresRunRepository where
  createOrGet := createOrGet driver
  get := get driver
  acquire := acquire driver
  renew := renew driver
  release := release driver
  markTerminal := markTerminal driver
  markHistoryCommitted := markHistoryCommitted driver
  reconcileHistoryCommitted := reconcileHistoryCommitted driver
  revokeResumeTokens := revokeResumeTokens driver

end PostgresRunRepository

end AgentRuntime.State
