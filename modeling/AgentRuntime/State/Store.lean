import AgentRuntime.State.Leases
import AgentRuntime.State.Postgres

/-!
# Both repositories keep the contract

`MemoryRunRepository` and `PostgresRunRepository` as instances of `Contract`. The views are the
obvious ones: the record of a run is the dictionary entry or the table row, the last fencing token of
a conversation is the fencing counter or the token of its lease row. `Backend.store` is the choice
that the settings make between the two.
-/

namespace AgentRuntime.State

/-- `MemoryRunRepository` keeps the contract. -/
def memoryContract : Contract MemoryRunRepository.methods where
  key runId := runId
  record := MemoryRunRepository.record
  token := MemoryRunRepository.token
  takes s now lease _ := s.ownsLease now lease = true ∧ (s.records.lookup lease.runId).isSome
  inv := MemoryRunRepository.Coherent
  inv_exec h := h.exec _ _
  createOrGet_spec h := by
    obtain ⟨r, error, hr, other, rfl, -, rfl⟩ | ⟨r, hr, m, rfl, rfl⟩ | ⟨hr, rfl, rfl⟩ :=
      MemoryRunRepository.createOrGet_cases h
    · refine .inl ⟨error, rfl, rfl, .inr fun r' hr' => ?_⟩
      cases hr.symm.trans hr'
      exact other
    · exact .inr (.inl ⟨r, hr, m, rfl, rfl⟩)
    · exact .inr (.inr ⟨_, hr, RunRecord.create_matches _ _, rfl, rfl, rfl,
        MemoryRunRepository.record_setRecord _ _ _, rfl⟩)
  get_spec h := by
    obtain ⟨rfl, rfl⟩ := Prod.mk.inj h
    exact ⟨rfl, .inr rfl⟩
  acquire_spec h := by
    obtain ⟨error, -, rfl, -, rfl⟩ | ⟨-, -, error, -, -, -, -, rfl, -, rfl⟩ | ⟨r, hr, -, -, rfl, rfl⟩ :=
      MemoryRunRepository.acquire_cases h
    · exact .inl ⟨error, rfl, rfl⟩
    · exact .inl ⟨error, rfl, rfl⟩
    · exact .inr ⟨r, _, hr, rfl, rfl, rfl, rfl, MemoryRunRepository.record_grant _ _ _ _,
        MemoryRunRepository.token_grant _ _ _ _⟩
  renew_spec {now lease ttlSeconds s result s'} h := by
    obtain ⟨-, rfl, rfl⟩ | ⟨-, -, rfl, rfl⟩ | ⟨r, -, hr, rfl, rfl⟩ := MemoryRunRepository.renew_cases h
    · exact .inl ⟨⟨_, rfl⟩, rfl, rfl⟩
    · exact .inl ⟨⟨_, rfl⟩, rfl, rfl⟩
    · refine .inr ⟨_, rfl, rfl, fun k => ?_⟩
      rw [MemoryRunRepository.record_setRecord, Function.update_apply]
      split
      · next e =>
        subst e
        exact .inr ⟨r, hr, rfl⟩
      · exact .inl rfl
  release_spec h := by
    obtain ⟨-, ⟨-, rfl⟩ | ⟨-, -, -, rfl⟩⟩ := MemoryRunRepository.release_cases h
    · exact ⟨rfl, rfl⟩
    · exact ⟨rfl, rfl⟩
  markTerminal_spec {now lease outcome s result s'} h := by
    obtain ⟨stale, rfl, rfl⟩ | ⟨-, hr, rfl, rfl⟩ | ⟨r, owns, hr, rfl, rfl⟩ :=
      MemoryRunRepository.markTerminal_cases h
    · exact .inl ⟨fun t => by simp [stale] at t, ⟨_, rfl⟩, rfl⟩
    · exact .inl ⟨fun t => by simp [hr] at t, ⟨_, rfl⟩, rfl⟩
    · refine .inr ⟨⟨owns, by simp [hr]⟩, r, _, hr, ⟨?_, ?_⟩, rfl,
        MemoryRunRepository.record_setRecord _ _ _, rfl⟩
      · intro e
        rw [e]
        rfl
      · intro object e nonempty
        rw [e]
        cases object with
        | nil => exact absurd rfl nonempty
        | cons field fields => exact ⟨_, rfl, .refl _⟩
  takes_fenced h t _ _ := by
    obtain ⟨current, hc, same, -⟩ := MemoryRunRepository.ownsLease_iff.mp t.1
    simp [MemoryRunRepository.token, (h _ _ hc).last, (sameOwner_iff.mp same).2.2.2]
  markHistoryCommitted_spec {now lease payload s result s'} h := by
    obtain ⟨-, rfl, rfl⟩ | ⟨-, -, rfl, rfl⟩ | ⟨r, -, hr, rfl, rfl⟩ :=
      MemoryRunRepository.markHistoryCommitted_cases h
    · exact .inl ⟨_, rfl, rfl⟩
    · exact .inl ⟨_, rfl, rfl⟩
    · refine .inr ⟨r, _, _, hr, ?_, ?_, rfl, MemoryRunRepository.record_setRecord _ _ _, rfl⟩
      · rintro rfl
        rfl
      · intro ne
        obtain ⟨object, rfl⟩ := Option.ne_none_iff_exists'.mp ne
        exact .refl _
  reconcileHistoryCommitted_spec {now runId payload s result s'} h := by
    obtain ⟨hr, rfl, rfl⟩ | ⟨r, hr, rfl, rfl⟩ :=
      MemoryRunRepository.reconcileHistoryCommitted_cases h
    · refine .inl ⟨_, rfl, rfl, .inr fun r hr' => ?_⟩
      cases hr.symm.trans hr'
    · refine .inr ⟨r, _, _, hr, ?_, ?_, rfl, MemoryRunRepository.record_setRecord _ _ _, rfl⟩
      · rintro rfl
        rfl
      · intro ne
        obtain ⟨object, rfl⟩ := Option.ne_none_iff_exists'.mp ne
        exact .refl _
  revokeResumeTokens_spec h := by
    obtain ⟨-, rfl, rfl⟩ | ⟨r, hr, rfl, rfl⟩ := MemoryRunRepository.revokeResumeTokens_cases h
    · exact .inl ⟨_, rfl, rfl⟩
    · exact .inr ⟨r, hr, rfl, MemoryRunRepository.record_setRecord _ _ _, rfl⟩

/-- `PostgresRunRepository` keeps the contract. -/
def postgresContract (driver : Driver) : Contract (PostgresRunRepository.methods driver) where
  key := driver.key
  record := PostgresRunRepository.record
  token := PostgresRunRepository.lastToken
  takes := PostgresRunRepository.TakesOutcome driver
  inv _ := True
  inv_exec _ := trivial
  createOrGet_spec h := by
    obtain ⟨error, rfl, rfl, cause⟩ | ⟨k, r, hk, hr, m, rfl, rfl⟩ | ⟨k, hk, hr, rfl, rfl⟩ :=
      PostgresRunRepository.createOrGet_cases h
    · exact .inl ⟨error, rfl, rfl, cause⟩
    · rw [Driver.key_eq hk]
      exact .inr (.inl ⟨r, hr, m, rfl, rfl⟩)
    · rw [Driver.key_eq hk]
      exact .inr (.inr ⟨_, hr, ⟨rfl, rfl, rfl, rfl, rfl⟩, rfl, rfl, rfl,
        PostgresRunRepository.record_setRun _ _ _, rfl⟩)
  get_spec h := by
    simp only [PostgresRunRepository.methods, PostgresRunRepository.get] at h
    split at h
    · obtain ⟨rfl, rfl⟩ := Prod.mk.inj h
      exact ⟨rfl, .inl ⟨_, rfl⟩⟩
    · next k hk =>
      obtain ⟨rfl, rfl⟩ := Prod.mk.inj h
      rw [Driver.key_eq hk]
      exact ⟨rfl, .inr rfl⟩
  acquire_spec h := by
    obtain ⟨error, rfl, rfl⟩ | ⟨r, lease, hk, -, hr, conversation, token, -, -, rfl, rfl⟩ :=
      PostgresRunRepository.acquire_cases h
    · exact .inl ⟨error, rfl, rfl⟩
    · rw [Driver.key_eq hk]
      refine .inr ⟨r, lease, hr, rfl, Driver.key_eq (driver.uuid_canonical hk), conversation, token,
        PostgresRunRepository.record_setRun _ _ _, ?_⟩
      exact PostgresRunRepository.lastToken_setLease _ _ _
  renew_spec h := by
    obtain ⟨error, rfl, rfl⟩ | ⟨k, owner, -, row, rfl, rfl⟩ := PostgresRunRepository.renew_cases h
    · exact .inl ⟨⟨_, rfl⟩, rfl, rfl⟩
    · refine .inr ⟨_, rfl, ?_, fun k => PostgresRunRepository.record_renewRun _ _ _ _ _ k⟩
      obtain ⟨row', hrow, -, -, token, -⟩ := PostgresRunRepository.leaseRow_iff.mp row
      rw [PostgresRunRepository.lastToken_renewRun]
      exact PostgresRunRepository.lastToken_setLease_same hrow token.symm
  release_spec h := by
    obtain rfl | ⟨row, hrow, -, rfl⟩ := PostgresRunRepository.release_cases h
    · exact ⟨rfl, rfl⟩
    · exact ⟨rfl, PostgresRunRepository.lastToken_expire hrow _⟩
  markTerminal_spec h := by
    obtain ⟨refused, error, rfl⟩ | ⟨k, owner, payload, r, hp, ho, hr, owns, rfl, rfl⟩ :=
      PostgresRunRepository.markTerminal_cases h
    · exact .inl ⟨refused, error, rfl⟩
    · rw [Driver.key_eq (PostgresRunRepository.leaseParameters_some hp).1]
      exact .inr ⟨⟨k, owner, payload, r, hp, ho, hr, owns⟩, r, payload, hr,
        PostgresRunRepository.keeps_payload (PostgresRunRepository.outcomeParameters_payload ho),
        rfl, PostgresRunRepository.record_setRun _ _ _, rfl⟩
  takes_fenced := by
    rintro s now lease outcome r - ⟨k, owner, payload, r', hp, -, hr', owns⟩ hr conversation
    rw [Driver.key_eq (PostgresRunRepository.leaseParameters_some hp).1] at hr
    cases hr'.symm.trans hr
    simp only [PostgresRunRepository.ownsRun, Bool.and_eq_true] at owns
    obtain ⟨row, hrow, -, -, token, -⟩ := PostgresRunRepository.leaseRow_iff.mp owns.2
    rw [conversation] at hrow
    simp [PostgresRunRepository.lastToken, hrow, token]
  markHistoryCommitted_spec {now lease payload s result s'} h := by
    obtain ⟨error, rfl, rfl⟩ | ⟨k, owner, stored, r, hp, hs, hr, -, rfl, rfl⟩ :=
      PostgresRunRepository.markHistoryCommitted_cases h
    · exact .inl ⟨error, rfl, rfl⟩
    · rw [Driver.key_eq (PostgresRunRepository.leaseParameters_some hp).1]
      refine .inr ⟨r, _, _, hr, ?_, ?_, rfl, PostgresRunRepository.record_setRun _ _ _, rfl⟩
      · rintro rfl
        cases hs
        rfl
      · intro ne
        obtain ⟨object, rfl⟩ := Option.ne_none_iff_exists'.mp ne
        obtain ⟨object', ho, rfl⟩ := Option.map_eq_some_iff.mp hs
        exact PostgresRunRepository.keeps_payload hs
  reconcileHistoryCommitted_spec {now runId payload s result s'} h := by
    obtain ⟨error, rfl, rfl, cause⟩ | ⟨k, stored, r, hk, hs, hr, -, rfl, rfl⟩ :=
      PostgresRunRepository.reconcileHistoryCommitted_cases h
    · refine .inl ⟨error, rfl, rfl, cause.imp_right fun other r hr => ?_⟩
      have unsettled := other r hr
      simp only [PostgresRunRepository.reconcilable, List.mem_cons, not_or] at unsettled
      exact ⟨unsettled.1, unsettled.2.1⟩
    · rw [Driver.key_eq hk]
      refine .inr ⟨r, _, _, hr, ?_, ?_, rfl, PostgresRunRepository.record_setRun _ _ _, rfl⟩
      · rintro rfl
        cases hs
        rfl
      · intro ne
        obtain ⟨object, rfl⟩ := Option.ne_none_iff_exists'.mp ne
        obtain ⟨object', ho, rfl⟩ := Option.map_eq_some_iff.mp hs
        exact PostgresRunRepository.keeps_payload hs
  revokeResumeTokens_spec h := by
    obtain ⟨error, rfl, rfl⟩ | ⟨k, r, hk, hr, rfl, rfl⟩ :=
      PostgresRunRepository.revokeResumeTokens_cases h
    · exact .inl ⟨error, rfl, rfl⟩
    · rw [Driver.key_eq hk]
      exact .inr ⟨r, hr, rfl, PostgresRunRepository.record_setRun _ _ _, rfl⟩

/-- The process-local store. -/
def memoryStore : Store where
  σ := MemoryRunRepository
  repo := MemoryRunRepository.methods
  contract := memoryContract
  empty := {}
  empty_inv := MemoryRunRepository.coherent_empty
  empty_record _ := rfl
  empty_token _ := rfl

/-- The PostgreSQL store. -/
def postgresStore (driver : Driver) : Store where
  σ := PostgresRunRepository
  repo := PostgresRunRepository.methods driver
  contract := postgresContract driver
  empty := {}
  empty_inv := trivial
  empty_record _ := rfl
  empty_token _ := rfl

/-- The backends of the run repository (source `Settings.run_repository_backend`). -/
inductive Backend where
  | memory
  | postgres (driver : Driver)

/-- The store that a backend is. -/
def Backend.store : Backend → Store
  | .memory => memoryStore
  | .postgres driver => postgresStore driver

end AgentRuntime.State
