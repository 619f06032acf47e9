import AgentRuntime.State.Holders

/-!
# What an owner can count on

The contract of the repositories says what a call may do; here is what it cannot refuse. While the lease of a call
is stored and has not run out, the call takes effect, unless the database does not take one of its values: there is
no other error. Both backends show the lease that they store for a conversation as a row.
-/

namespace AgentRuntime.State

/-- The conversation whose row a call may write. -/
def Call.conversation? : Call → Option String
  | .acquire identity _ _ => some identity.conversationId
  | .renew lease _ => some lease.conversationId
  | .release lease => some lease.conversationId
  | _ => none

/-- The record names the lease as its own. -/
structure RunRecord.Names (record : RunRecord) (lease : RunLease) : Prop where
  conversation : record.conversationId = lease.conversationId
  owner : record.leaseOwner = some lease.ownerId
  token : record.fencingToken = some lease.fencingToken

namespace MemoryRunRepository

variable {repo : MemoryRunRepository} {now expiry : Time} {lease : RunLease} {c : String}

/-- The row of a stored lease. -/
def rowAt (repo : MemoryRunRepository) (c : String) : Option LeaseRow :=
  (repo.leases.lookup c).map PostgresRunRepository.rowOf

lemma rowAt_setLease (repo : MemoryRunRepository) (lease : RunLease) :
    (repo.setLease lease).rowAt c =
      if c = lease.conversationId then some (PostgresRunRepository.rowOf lease) else repo.rowAt c := by
  simp only [rowAt, setLease_leases, Dict.lookup_insert_ite]
  split <;> rfl

lemma rowAt_grant (repo : MemoryRunRepository) (r : RunRecord) (lease : RunLease) (now : Time) :
    (repo.grant r lease now).rowAt c =
      if c = lease.conversationId then some (PostgresRunRepository.rowOf lease) else repo.rowAt c := by
  simp only [rowAt, grant, Dict.lookup_insert_ite]
  split <;> rfl

lemma rowAt_exec {call : Call} (apart : call.conversation? ≠ some c) :
    (methods.exec now call repo).2.rowAt c = repo.rowAt c := by
  cases call <;> rw [RunRepository.exec, Effect.reply_snd]
  case createOrGet identity =>
    cases called : methods.createOrGet now identity repo with
    | mk result repo' =>
      obtain ⟨_, _, _, _, _, _, rfl⟩ | ⟨_, _, _, _, rfl⟩ | ⟨_, _, rfl⟩ := createOrGet_cases called <;> rfl
  case get => rfl
  case acquire identity ownerId ttlSeconds =>
    have other : c ≠ identity.conversationId := fun same => apart (congrArg some same.symm)
    cases called : methods.acquire now identity ownerId ttlSeconds repo with
    | mk result repo' =>
      obtain ⟨_, _, _, _, rfl⟩ | ⟨_, _, _, _, _, _, _, _, _, rfl⟩ | ⟨r, _, _, _, _, rfl⟩ :=
        acquire_cases called
      · rfl
      · rfl
      · exact (rowAt_grant _ _ _ _).trans (if_neg other)
  case renew lease ttlSeconds =>
    have other : c ≠ lease.conversationId := fun same => apart (congrArg some same.symm)
    cases called : methods.renew now lease ttlSeconds repo with
    | mk result repo' =>
      obtain ⟨_, _, rfl⟩ | ⟨_, _, _, rfl⟩ | ⟨r, _, _, _, rfl⟩ := renew_cases called
      · rfl
      · exact (rowAt_setLease _ _).trans (if_neg other)
      · exact (rowAt_setLease _ _).trans (if_neg other)
  case release lease =>
    have other : c ≠ lease.conversationId := fun same => apart (congrArg some same.symm)
    cases called : methods.release now lease repo with
    | mk result repo' =>
      obtain ⟨-, ⟨_, rfl⟩ | ⟨_, _, _, rfl⟩⟩ := release_cases called
      · rfl
      · simp only [rowAt, Dict.lookup_erase_ite, if_neg other]
  case markTerminal lease outcome =>
    cases called : methods.markTerminal now lease outcome repo with
    | mk result repo' =>
      obtain ⟨_, _, rfl⟩ | ⟨_, _, _, rfl⟩ | ⟨_, _, _, _, rfl⟩ := markTerminal_cases called <;> rfl
  case markHistoryCommitted lease payload =>
    cases called : methods.markHistoryCommitted now lease payload repo with
    | mk result repo' =>
      obtain ⟨_, _, rfl⟩ | ⟨_, _, _, rfl⟩ | ⟨_, _, _, _, rfl⟩ := markHistoryCommitted_cases called <;> rfl
  case reconcileHistoryCommitted runId payload =>
    cases called : methods.reconcileHistoryCommitted now runId payload repo with
    | mk result repo' =>
      obtain ⟨_, _, rfl⟩ | ⟨_, _, _, rfl⟩ := reconcileHistoryCommitted_cases called <;> rfl
  case revokeResumeTokens runId =>
    cases called : methods.revokeResumeTokens now runId repo with
    | mk result repo' =>
      obtain ⟨_, _, rfl⟩ | ⟨_, _, _, rfl⟩ := revokeResumeTokens_cases called <;> rfl

/-- A lease whose row is stored is the current one, until it runs out. -/
lemma ownsLease_of_row (coherent : repo.Coherent) (running : now < expiry)
    (row : repo.rowAt lease.conversationId =
      some ⟨lease.runId, lease.ownerId, lease.fencingToken, expiry⟩) :
    repo.ownsLease now lease = true := by
  obtain ⟨current, stored, same⟩ := Option.map_eq_some_iff.mp row
  obtain ⟨run, owner, token, expires⟩ := LeaseRow.mk.inj same
  refine ownsLease_iff.mpr ⟨current, stored, sameOwner_iff.mpr ?_, expires ▸ running⟩
  exact ⟨(coherent _ _ stored).conversation, run, owner, token⟩

end MemoryRunRepository

namespace PostgresRunRepository

variable {driver : Driver} {repo : PostgresRunRepository} {now expiry : Time} {lease : RunLease} {c : String}

/-- The row of a conversation. -/
def rowAt (repo : PostgresRunRepository) (c : String) : Option LeaseRow := repo.appConversationLeases.lookup c

lemma rowAt_setLease (repo : PostgresRunRepository) (conversationId : String) (row : LeaseRow) :
    (repo.setLease conversationId row).rowAt c = if c = conversationId then some row else repo.rowAt c := by
  simp only [rowAt, setLease, Dict.lookup_insert_ite]

lemma rowAt_renewRun (repo : PostgresRunRepository) (now : Time) (runId : String) (token : Nat)
    (expiresAt : Time) : (repo.renewRun now runId token expiresAt).rowAt c = repo.rowAt c := by
  simp only [renewRun]
  split
  · rfl
  · split <;> rfl

lemma rowAt_exec {call : Call} (apart : call.conversation? ≠ some c) :
    ((methods driver).exec now call repo).2.rowAt c = repo.rowAt c := by
  cases call <;> rw [RunRepository.exec, Effect.reply_snd]
  case createOrGet identity =>
    cases called : (methods driver).createOrGet now identity repo with
    | mk result repo' =>
      obtain ⟨_, _, rfl, _⟩ | ⟨_, _, _, _, _, _, rfl⟩ | ⟨_, _, _, _, rfl⟩ := createOrGet_cases called <;> rfl
  case get runId =>
    cases called : (methods driver).get runId repo with
    | mk result repo' => rw [((postgresContract driver).get_spec called).1]
  case markTerminal lease outcome =>
    cases called : (methods driver).markTerminal now lease outcome repo with
    | mk result repo' =>
      obtain ⟨_, _, rfl⟩ | ⟨_, _, _, _, _, _, _, _, _, rfl⟩ := markTerminal_cases called <;> rfl
  case markHistoryCommitted lease payload =>
    cases called : (methods driver).markHistoryCommitted now lease payload repo with
    | mk result repo' =>
      obtain ⟨_, _, rfl⟩ | ⟨_, _, _, _, _, _, _, _, _, rfl⟩ := markHistoryCommitted_cases called <;> rfl
  case reconcileHistoryCommitted runId payload =>
    cases called : (methods driver).reconcileHistoryCommitted now runId payload repo with
    | mk result repo' =>
      obtain ⟨_, _, rfl, _⟩ | ⟨_, _, _, _, _, _, _, _, rfl⟩ := reconcileHistoryCommitted_cases called <;> rfl
  case revokeResumeTokens runId =>
    cases called : (methods driver).revokeResumeTokens now runId repo with
    | mk result repo' =>
      obtain ⟨_, _, rfl⟩ | ⟨_, _, _, _, _, rfl⟩ := revokeResumeTokens_cases called <;> rfl
  case acquire identity ownerId ttlSeconds =>
    have other : c ≠ identity.conversationId := fun same => apart (congrArg some same.symm)
    cases called : (methods driver).acquire now identity ownerId ttlSeconds repo with
    | mk result repo' =>
      obtain ⟨_, _, rfl⟩ | ⟨r, lease, _, _, _, _, _, _, _, _, rfl⟩ := acquire_cases called
      · rfl
      · exact (rowAt_setLease _ _ _).trans (if_neg other)
  case renew lease ttlSeconds =>
    have other : c ≠ lease.conversationId := fun same => apart (congrArg some same.symm)
    cases called : (methods driver).renew now lease ttlSeconds repo with
    | mk result repo' =>
      obtain ⟨_, _, rfl⟩ | ⟨k, owner, _, _, _, rfl⟩ := renew_cases called
      · rfl
      · exact (rowAt_renewRun _ _ _ _ _).trans ((rowAt_setLease _ _ _).trans (if_neg other))
  case release lease =>
    have other : c ≠ lease.conversationId := fun same => apart (congrArg some same.symm)
    cases called : (methods driver).release now lease repo with
    | mk result repo' =>
      obtain rfl | ⟨row, _, _, rfl⟩ := release_cases called
      · rfl
      · exact (rowAt_setLease _ _ _).trans (if_neg other)

/-- A lease whose row is stored and that its record names owns the run, until it runs out. -/
lemma ownsRun_of_row {r : RunRecord} {k owner : String}
    (parameters : driver.leaseParameters lease = some (k, owner))
    (canonical : driver.key lease.ownerId = lease.ownerId) (names : r.Names lease) (running : now < expiry)
    (row : repo.rowAt lease.conversationId =
      some ⟨driver.key lease.runId, lease.ownerId, lease.fencingToken, expiry⟩) :
    repo.ownsRun now r k owner lease.fencingToken = true := by
  obtain ⟨run, own, -⟩ := leaseParameters_some parameters
  have sameRun : driver.key lease.runId = k := Driver.key_eq run
  have sameOwner : lease.ownerId = owner := canonical.symm.trans (Driver.key_eq own)
  have held : repo.leaseRow now r.conversationId k owner lease.fencingToken = true := by
    rw [names.conversation]
    exact leaseRow_iff.mpr ⟨_, row, sameRun, sameOwner, rfl, running⟩
  simp only [ownsRun, names.owner, names.token, held, sameOwner, decide_true, Bool.and_self]

end PostgresRunRepository

/-- The row that is stored for a conversation. -/
def Backend.row : (backend : Backend) → backend.store.σ → String → Option LeaseRow
  | .memory, s, c => MemoryRunRepository.rowAt s c
  | .postgres _, s, c => PostgresRunRepository.rowAt s c

/-- The lease is in force until the instant: it is stored for its conversation, and the record of its run names
    it. -/
structure Owns (backend : Backend) (s : backend.store.σ) (lease : RunLease) (expiry : Time) : Prop where
  canonical : backend.store.contract.key lease.ownerId = lease.ownerId
  row : backend.row s lease.conversationId =
    some ⟨backend.store.contract.key lease.runId, lease.ownerId, lease.fencingToken, expiry⟩
  record : ∃ r, backend.store.contract.record s (backend.store.contract.key lease.runId) = some r ∧
    r.Names lease

/-- Every lease of the conversation has run out. -/
def Lapsed (backend : Backend) (s : backend.store.σ) (conversationId : String) (now : Time) : Prop :=
  ∀ row, backend.row s conversationId = some row → row.leaseExpiresAt ≤ now

section Calls

variable {backend : Backend} {s s' : backend.store.σ} {now expiry : Time} {lease : RunLease}

lemma Lapsed.later {c : String} {now' : Time} (lapsed : Lapsed backend s c now) (later : now ≤ now')
    (same : backend.row s' c = backend.row s c) : Lapsed backend s' c now' := by
  intro row stored
  rw [same] at stored
  exact Int.le_trans (lapsed row stored) later

/-- A call leaves the rows of other conversations alone. -/
lemma Backend.row_exec {call : Call} {c : String} (apart : call.conversation? ≠ some c) :
    backend.row (backend.store.repo.exec now call s).2 c = backend.row s c := by
  cases backend with
  | memory => exact MemoryRunRepository.rowAt_exec apart
  | postgres driver => exact PostgresRunRepository.rowAt_exec apart

/-- A lease stays in force when its row stays, and a record that names it. -/
lemma Owns.update {r : RunRecord} (owns : Owns backend s lease expiry)
    (row : backend.row s' lease.conversationId = backend.row s lease.conversationId)
    (record : backend.store.contract.record s' (backend.store.contract.key lease.runId) = some r)
    (names : r.Names lease) : Owns backend s' lease expiry where
  canonical := owns.canonical
  row := row.trans owns.row
  record := ⟨r, record, names⟩

/-- Until when a lease was last known to run does not matter. -/
lemma Owns.current (owns : Owns backend s lease expiry) (expiresAt : Time) :
    Owns backend s { lease with expiresAt } expiry := by
  obtain ⟨r, found, names⟩ := owns.record
  exact ⟨owns.canonical, owns.row, r, found, names.conversation, names.owner, names.token⟩

lemma get_answers {runId : String} {result} (called : backend.store.repo.get runId s = (result, s')) :
    result = .error .database ∨
      result = .ok (backend.store.contract.record s (backend.store.contract.key runId)) := by
  obtain ⟨-, ⟨error, e⟩ | e⟩ := backend.store.contract.get_spec called
  · cases backend with
    | memory => cases (Prod.mk.inj called).1.trans e
    | postgres driver =>
      change PostgresRunRepository.get driver runId s = _ at called
      simp only [PostgresRunRepository.get] at called
      split at called
      · exact .inl (Prod.mk.inj called).1.symm
      · cases (Prod.mk.inj called).1.trans e
  · exact .inr e

/-- The conversation is granted to whoever asks for it when its lease has run out. -/
lemma acquire_answers {identity : RunIdentity} {ownerId : String} {ttlSeconds : Int} {result}
    (found : ∃ r, backend.store.contract.record s (backend.store.contract.key identity.runId) = some r ∧
      r.Matches identity)
    (lapsed : Lapsed backend s identity.conversationId now)
    (called : backend.store.repo.acquire now identity ownerId ttlSeconds s = (result, s')) :
    result = .error .database ∨ ∃ lease, result = .ok lease ∧ lease.conversationId = identity.conversationId ∧
      backend.store.contract.key lease.runId = backend.store.contract.key identity.runId ∧
      Owns backend s' lease (now + seconds ttlSeconds) := by
  obtain ⟨r, found, m⟩ := found
  cases backend with
  | memory =>
    obtain ⟨_, other, -⟩ | ⟨_, current, _, _, _, stored, running, -⟩ | ⟨r', found', m', -, e, rfl⟩ :=
      MemoryRunRepository.acquire_cases called
    · exact absurd m (other r found)
    -- only a lease in force is in the way, and this one has run out
    · have ended := lapsed _ (Option.map_eq_some_iff.mpr ⟨current, stored, rfl⟩)
      exact absurd running (Int.not_lt.mpr ended)
    · refine .inr ⟨_, e, rfl, rfl, rfl, ?_, r'.acquired _ now, ?_, ⟨m'.conversation, rfl, rfl⟩⟩
      · exact (MemoryRunRepository.rowAt_grant _ _ _ _).trans (if_pos rfl)
      · exact (congrFun (MemoryRunRepository.record_grant _ _ _ _) _).trans (Function.update_self _ _ _)
  | postgres driver =>
    obtain ⟨error, e, -⟩ | ⟨r', lease, run, owner, found', conversation, token, expires, -, e, rfl⟩ :=
      PostgresRunRepository.acquire_cases called
    · refine .inl ?_
      change PostgresRunRepository.acquire driver now identity ownerId ttlSeconds s = _ at called
      simp only [PostgresRunRepository.acquire] at called
      split at called
      · next k owner run _ =>
        split at called
        · exact (Prod.mk.inj called).1.symm
        · split at called
          -- only a lease in force keeps the upsert from its row, and this one has run out
          · next busy =>
            obtain ⟨row, stored, running⟩ := (Option.any_eq_true _ _).mp busy
            exact absurd (of_decide_eq_true running) (Int.not_lt.mpr (lapsed row stored))
          · split at called
            · exact (Prod.mk.inj called).1.symm
            · split at called
              · next none =>
                have same : (postgresStore driver).contract.key identity.runId = k := Driver.key_eq run
                cases (same ▸ found : PostgresRunRepository.record s k = some r).symm.trans none
              · cases (Prod.mk.inj called).1.trans e
      · exact (Prod.mk.inj called).1.symm
    · have canonical : driver.key lease.ownerId = lease.ownerId := Driver.key_eq (driver.uuid_canonical owner)
      have run' : driver.key lease.runId = lease.runId := Driver.key_eq (driver.uuid_canonical run)
      have same : driver.key lease.runId = driver.key identity.runId := run'.trans (Driver.key_eq run).symm
      have written : PostgresRunRepository.record ((s.setLease identity.conversationId
          (PostgresRunRepository.rowOf lease)).setRun lease.runId (r'.acquired lease now)) lease.runId =
          some (r'.acquired lease now) :=
        (congrFun (PostgresRunRepository.record_setRun _ _ _) _).trans (Function.update_self _ _ _)
      have m' : r'.conversationId = lease.conversationId := by
        rw [← run', same] at found'
        cases found.symm.trans found'
        exact m.conversation.trans conversation.symm
      refine .inr ⟨lease, e, conversation, same, canonical, ?_, r'.acquired lease now, ?_, ⟨m', rfl, rfl⟩⟩
      · have stored : (s.setLease identity.conversationId (PostgresRunRepository.rowOf lease)).rowAt
            lease.conversationId = some (PostgresRunRepository.rowOf lease) :=
          (PostgresRunRepository.rowAt_setLease _ _ _).trans (if_pos conversation)
        have shape : PostgresRunRepository.rowOf lease =
            ⟨driver.key lease.runId, lease.ownerId, lease.fencingToken, now + seconds ttlSeconds⟩ := by
          rw [PostgresRunRepository.rowOf, run', expires]
        exact stored.trans (congrArg some shape)
      · show PostgresRunRepository.record _ (driver.key lease.runId) = _
        rw [run']
        exact written

/-- A lease in force is renewed. -/
lemma Owns.renew {ttlSeconds : Int} {result} (owns : Owns backend s lease expiry) (running : now < expiry)
    (inv : backend.store.contract.inv s)
    (called : backend.store.repo.renew now lease ttlSeconds s = (result, s')) :
    result = .error .database ∨ (∃ expiresAt, result = .ok { lease with expiresAt }) ∧
      Owns backend s' lease (now + seconds ttlSeconds) := by
  obtain ⟨r, found, names⟩ := owns.record
  have record {expiresAt : Time} (e : result = .ok { lease with expiresAt }) :
      ∃ r, backend.store.contract.record s' (backend.store.contract.key lease.runId) = some r ∧
        r.Names lease := by
    obtain ⟨⟨_, e'⟩, -⟩ | ⟨_, -, -, records⟩ := backend.store.contract.renew_spec called
    · cases e.symm.trans e'
    · obtain same | ⟨r', found', after⟩ := records (backend.store.contract.key lease.runId)
      · exact ⟨r, same.trans found, names⟩
      · cases found.symm.trans found'
        exact ⟨_, after, names.conversation, names.owner, names.token⟩
  cases backend with
  | memory =>
    have current := MemoryRunRepository.ownsLease_of_row inv running owns.row
    -- neither stale nor without a record
    obtain ⟨stale, -⟩ | ⟨-, none, -⟩ | ⟨_, -, -, e, rfl⟩ := MemoryRunRepository.renew_cases called
    · cases current.symm.trans stale
    · cases found.symm.trans none
    · exact .inr ⟨⟨_, e⟩, owns.canonical, (MemoryRunRepository.rowAt_setLease _ _).trans (if_pos rfl),
        record e⟩
  | postgres driver =>
    obtain ⟨error, e, -⟩ | ⟨k, owner, parameters, -, e, rfl⟩ := PostgresRunRepository.renew_cases called
    · refine .inl ?_
      change PostgresRunRepository.renew driver now lease ttlSeconds s = _ at called
      simp only [PostgresRunRepository.renew] at called
      split at called
      · exact (Prod.mk.inj called).1.symm
      · next k owner parameters =>
        obtain ⟨run, own, -⟩ := PostgresRunRepository.leaseParameters_some parameters
        have held :
            PostgresRunRepository.leaseRow s now lease.conversationId k owner lease.fencingToken = true :=
          PostgresRunRepository.leaseRow_iff.mpr ⟨_, owns.row, Driver.key_eq run,
            owns.canonical.symm.trans (Driver.key_eq own), rfl, running⟩
        split at called
        · exact (Prod.mk.inj called).1.symm
        · cases (Prod.mk.inj called).1.trans e
    · obtain ⟨run, own, -⟩ := PostgresRunRepository.leaseParameters_some parameters
      have shape : PostgresRunRepository.rowOf
          { lease with runId := k, ownerId := owner, expiresAt := now + seconds ttlSeconds } =
            ⟨driver.key lease.runId, lease.ownerId, lease.fencingToken, now + seconds ttlSeconds⟩ := by
        have sameOwner : owner = lease.ownerId := (Driver.key_eq own).symm.trans owns.canonical
        rw [PostgresRunRepository.rowOf, sameOwner, Driver.key_eq run]
      refine .inr ⟨⟨_, e⟩, owns.canonical, ?_, record e⟩
      exact (PostgresRunRepository.rowAt_renewRun _ _ _ _ _).trans
        ((PostgresRunRepository.rowAt_setLease _ _ _).trans ((if_pos rfl).trans (congrArg some shape)))

/-- An outcome is accepted from the lease in force. -/
lemma Owns.markTerminal {outcome : Outcome} {result} (owns : Owns backend s lease expiry)
    (running : now < expiry)
    (inv : backend.store.contract.inv s)
    (called : backend.store.repo.markTerminal now lease outcome s = (result, s')) :
    result = .error .database ∨ (∃ r, result = .ok r) ∧ Owns backend s' lease expiry := by
  obtain ⟨r, found, names⟩ := owns.record
  obtain ⟨-, ⟨error, e⟩, -⟩ | ⟨-, r', payload, found', -, e, records, -⟩ :=
    backend.store.contract.markTerminal_spec called
  · refine .inl ?_
    cases backend with
    | memory =>
      have current := MemoryRunRepository.ownsLease_of_row inv running owns.row
      obtain ⟨stale, -⟩ | ⟨-, none, -⟩ | ⟨_, -, -, e', -⟩ := MemoryRunRepository.markTerminal_cases called
      · cases current.symm.trans stale
      · cases found.symm.trans none
      · cases e'.symm.trans e
    | postgres driver =>
      change PostgresRunRepository.markTerminal driver now lease outcome s = _ at called
      simp only [PostgresRunRepository.markTerminal] at called
      split at called
      · next k owner payload parameters _ =>
        have same : driver.key lease.runId = k :=
          Driver.key_eq (PostgresRunRepository.leaseParameters_some parameters).1
        have stored : PostgresRunRepository.record s k = some r := same ▸ found
        have own := PostgresRunRepository.ownsRun_of_row parameters owns.canonical names running owns.row
        split at called
        · next none => cases stored.symm.trans none
        · next r' found' =>
          cases stored.symm.trans found'
          rw [if_pos own] at called
          cases (Prod.mk.inj called).1.trans e
      · exact (Prod.mk.inj called).1.symm
  · cases found.symm.trans found'
    have moved : s' = (backend.store.repo.exec now (.markTerminal lease outcome) s).2 := by
      rw [RunRepository.exec, Effect.reply_snd, called]
    refine .inr ⟨⟨_, e⟩, owns.update ?_ ((congrFun records _).trans (Function.update_self _ _ _)) ?_⟩
    · rw [moved]
      exact Backend.row_exec (Option.some_ne_none _).symm
    · exact ⟨names.conversation, names.owner, names.token⟩

/-- The history is marked for the lease in force. -/
lemma Owns.markHistoryCommitted {payload : Option JsonObject} {result} (owns : Owns backend s lease expiry)
    (running : now < expiry) (inv : backend.store.contract.inv s)
    (called : backend.store.repo.markHistoryCommitted now lease payload s = (result, s')) :
    result = .error .database ∨ (∃ r, result = .ok r) ∧ Owns backend s' lease expiry := by
  obtain ⟨r, found, names⟩ := owns.record
  obtain ⟨error, e, -⟩ | ⟨r', kept, committedAt, found', -, -, e, records, -⟩ :=
    backend.store.contract.markHistoryCommitted_spec called
  · refine .inl ?_
    cases backend with
    | memory =>
      have current := MemoryRunRepository.ownsLease_of_row inv running owns.row
      obtain ⟨stale, -⟩ | ⟨-, none, -⟩ | ⟨_, -, -, e', -⟩ :=
        MemoryRunRepository.markHistoryCommitted_cases called
      · cases current.symm.trans stale
      · cases found.symm.trans none
      · cases e'.symm.trans e
    | postgres driver =>
      change PostgresRunRepository.markHistoryCommitted driver now lease payload s = _ at called
      simp only [PostgresRunRepository.markHistoryCommitted] at called
      split at called
      · next k owner payload parameters _ =>
        have same : driver.key lease.runId = k :=
          Driver.key_eq (PostgresRunRepository.leaseParameters_some parameters).1
        have stored : PostgresRunRepository.record s k = some r := same ▸ found
        have own := PostgresRunRepository.ownsRun_of_row parameters owns.canonical names running owns.row
        split at called
        · next none => cases stored.symm.trans none
        · next r' found' =>
          cases stored.symm.trans found'
          rw [if_pos own] at called
          cases (Prod.mk.inj called).1.trans e
      · exact (Prod.mk.inj called).1.symm
  · cases found.symm.trans found'
    have moved : s' = (backend.store.repo.exec now (.markHistoryCommitted lease payload) s).2 := by
      rw [RunRepository.exec, Effect.reply_snd, called]
    refine .inr ⟨⟨_, e⟩, owns.update ?_ ((congrFun records _).trans (Function.update_self _ _ _)) ?_⟩
    · rw [moved]
      exact Backend.row_exec (Option.some_ne_none _).symm
    · exact ⟨names.conversation, names.owner, names.token⟩

/-- A lease that is released has run out. -/
lemma Owns.release {result} (owns : Owns backend s lease expiry) (inv : backend.store.contract.inv s)
    (called : backend.store.repo.release now lease s = (result, s')) :
    result = .error .database ∨ result = .ok () ∧ Lapsed backend s' lease.conversationId now := by
  cases backend with
  | memory =>
    obtain ⟨e, ⟨other, -⟩ | ⟨_, -, -, rfl⟩⟩ := MemoryRunRepository.release_cases called
    · obtain ⟨current, stored, same⟩ := Option.map_eq_some_iff.mp owns.row
      obtain ⟨run, owner, token, -⟩ := LeaseRow.mk.inj same
      have own : sameOwner current lease = true :=
        sameOwner_iff.mpr ⟨(inv _ _ stored).conversation, run, owner, token⟩
      cases own.symm.trans (other current stored)
    · refine .inr ⟨e, ?_⟩
      intro row stored
      have gone : MemoryRunRepository.rowAt
          { leases := (MemoryRunRepository.leases s).erase lease.conversationId }
          lease.conversationId = none := by
        simp only [MemoryRunRepository.rowAt, Dict.lookup_erase_ite, if_true, Option.map_none]
      cases gone.symm.trans stored
  | postgres driver =>
    change PostgresRunRepository.release driver now lease s = _ at called
    simp only [PostgresRunRepository.release] at called
    split at called
    · exact .inl (Prod.mk.inj called).1.symm
    · next k owner parameters =>
      obtain ⟨run, own, -⟩ := PostgresRunRepository.leaseParameters_some parameters
      split at called
      · exact .inl (Prod.mk.inj called).1.symm
      · split at called
        · next none => cases (owns.row : PostgresRunRepository.rowAt s _ = _).symm.trans none
        · next row stored =>
          cases (owns.row : PostgresRunRepository.rowAt s _ = _).symm.trans stored
          have sameOwner : lease.ownerId = owner := owns.canonical.symm.trans (Driver.key_eq own)
          split at called
          · obtain ⟨rfl, rfl⟩ := Prod.mk.inj called
            refine .inr ⟨rfl, ?_⟩
            intro row stored
            cases ((PostgresRunRepository.rowAt_setLease _ _ _).trans (if_pos rfl)).symm.trans stored
            exact Int.le_refl now
          · next other => exact absurd ⟨Driver.key_eq run, sameOwner, rfl⟩ other

end Calls

end AgentRuntime.State
